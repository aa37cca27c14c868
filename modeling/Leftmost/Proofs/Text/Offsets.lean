import Leftmost.Proofs.Text.LaidOut

/-!
# Leftmost.Proofs.Text.Offsets

What the two offset maps of a text give, told by the characters that its units read as, for every
text whose bytes are few enough for the entries of the table:

* `mapsUnits_ofUnits` — a unit goes to where its character begins in bytes, and the table takes over
  where the two forms part;
* `mapsBytes_ofUnits` — a byte goes to the first unit of its character, and the two maps undo each
  other but for what lies inside a character.
-/

namespace Leftmost

namespace IndexedText

open Row

/-! ## Units to bytes -/

/-- The map from units to bytes is that of a row of characters. -/
structure MapsUnits (t : IndexedText) (cs : Row) : Prop where
  reads : Unit16.Reads t.units.toList cs
  bytes : t.bytes = encode cs
  past_end : ∀ u, t.size ≤ u → t.byteOffset u = t.bytes.size
  /-- A unit goes to the length of the characters before its own. -/
  inside : ∀ u < t.size, ∃ j, HoldsUnit cs j u ∧ t.byteOffset u = byteLength (cs.take j)
  /-- There is no table as long as units are their own offsets. -/
  no_table : t.table = none → (∀ u ∈ t.units, u < 0x80) ∧ ∀ u ≤ t.size, t.byteOffset u = u
  /-- A table begins at the first unit that is not ASCII. -/
  starts : ∀ table, t.table = some table →
    (∀ i < t.tableStart, ∃ u, t.units[i]? = some u ∧ u < 0x80) ∧
      ∃ u, t.units[t.tableStart]? = some u ∧ 0x80 ≤ u
  /-- Up to there and including it, units are their own offsets. -/
  agrees : ∀ table, t.table = some table → ∀ u ≤ t.tableStart, t.byteOffset u = u
  in_range : ∀ table, t.table = some table →
    ∀ u, t.tableStart ≤ u → u < t.size → u - t.tableStart < table.size

namespace LaidOut

variable {t : IndexedText} {cs : Row} (h : LaidOut t cs)
include h

/-- A table has an entry for every unit from its start on. -/
theorem size_table {table : Array UInt32} (ht : t.table = some table) :
    t.tableStart + table.size = t.size := by
  cases h with
  | plain => cases ht
  | wide hpre _ _ hsize =>
      cases ht
      simp only [size, hsize, unitLength_append, unitLength_of_plain hpre, List.size_toArray,
        length_entries]

theorem byteOffset_of_no_table (hsmall : t.bytes.size ≤ UInt32.size) (ht : t.table = none) {u : Nat}
    (hu : u ≤ t.size) : t.byteOffset u = u := by
  rw [h.byteOffset_eq hsmall]
  rw [h.size_eq] at hu
  cases h with
  | plain hcs => exact byteOf_of_plain hcs (unitLength_of_plain hcs ▸ hu)
  | wide => cases ht

theorem byteOffset_of_le_tableStart (hsmall : t.bytes.size ≤ UInt32.size) {table : Array UInt32}
    (ht : t.table = some table) {u : Nat} (hu : u ≤ t.tableStart) : t.byteOffset u = u := by
  rw [h.byteOffset_eq hsmall]
  cases h with
  | plain => cases ht
  | wide hpre _ hrest => exact byteOf_append_of_plain hpre hrest hu

/-- Without a table all units are ASCII. -/
theorem ascii_of_no_table (hread : cs = Unit16.decode t.units.toList) (ht : t.table = none) :
    ∀ u ∈ t.units, u < 0x80 := by
  cases h with
  | wide => cases ht
  | @plain units _ hcs hsize =>
      intro u hu
      obtain ⟨i, hi, rfl⟩ := Array.mem_iff_getElem.mp hu
      have hdec : Unit16.decode units.toList = cs ++ [] := by rw [List.append_nil, hread]
      obtain ⟨v, hv, hlt⟩ :=
        Unit16.ascii_of_plain units.toList hdec hcs (unitLength_of_plain hcs ▸ hsize ▸ hi)
      rw [Array.getElem?_toList, Array.getElem?_eq_getElem hi, Option.some.injEq] at hv
      exact hv ▸ hlt

/-- A table begins at the first unit that is not ASCII. -/
theorem starts_at_first_not_ascii (hread : cs = Unit16.decode t.units.toList)
    {table : Array UInt32} (ht : t.table = some table) :
    (∀ i < t.tableStart, ∃ u, t.units[i]? = some u ∧ u < 0x80) ∧
      ∃ u, t.units[t.tableStart]? = some u ∧ 0x80 ≤ u := by
  cases h with
  | plain => cases ht
  | @wide units _ _ _ hpre hc =>
      constructor
      · intro i hi
        simpa using Unit16.ascii_of_plain units.toList hread.symm hpre hi
      · simpa using Unit16.not_ascii_of_not_plain units.toList hread.symm hpre hc

end LaidOut

/-- Units go to the bytes of their characters. -/
theorem mapsUnits_ofUnits (units : Array Unit16) (hsmall : (ofUnits units).bytes.size ≤ UInt32.size) :
    MapsUnits (ofUnits units) (Unit16.decode units.toList) := by
  have h := laidOut_ofUnits units
  refine {
    reads := Unit16.reads_decode units.toList
    bytes := h.bytes_eq
    past_end := fun u hu => ?_
    inside := fun u hu => ?_
    no_table := fun ht =>
      ⟨h.ascii_of_no_table rfl ht, fun u hu => h.byteOffset_of_no_table hsmall ht hu⟩
    starts := fun table ht => h.starts_at_first_not_ascii rfl ht
    agrees := fun table ht u hu => h.byteOffset_of_le_tableStart hsmall ht hu
    in_range := fun table ht u hu hlt => ?_ }
  · rw [h.byteOffset_eq hsmall, h.size_bytes]
    exact byteOf_of_le (h.size_eq ▸ hu)
  · obtain ⟨j, hj, heq⟩ := byteOf_eq (h.size_eq ▸ hu)
    exact ⟨j, hj, by rw [h.byteOffset_eq hsmall, heq]⟩
  · have := h.size_table ht
    omega

/-- A pair behind an ASCII unit, then a surrogate without a partner. -/
theorem mapsUnits_pair_and_unpaired :
    (ofUnits #[0x58, 0xd83d, 0xdcbb, 0xd800, 0x62]).bytes.size ≤ UInt32.size ∧
      MapsUnits (ofUnits #[0x58, 0xd83d, 0xdcbb, 0xd800, 0x62])
        (Unit16.decode [0x58, 0xd83d, 0xdcbb, 0xd800, 0x62]) :=
  ⟨by decide, mapsUnits_ofUnits _ (by decide)⟩

/-! ## Bytes to units -/

/-- The map from bytes to units is that of a row of characters, and goes with the map back. -/
structure MapsBytes (t : IndexedText) (cs : Row) : Prop where
  reads : Unit16.Reads t.units.toList cs
  bytes : t.bytes = encode cs
  past_end : ∀ b, t.bytes.size ≤ b → t.unitOffset b = t.size
  /-- A byte goes to the first unit of its character. -/
  inside : ∀ b < t.bytes.size, ∃ j, HoldsByte cs j b ∧ t.unitOffset b = unitLength (cs.take j)
  /-- There and back, a byte ends on the last boundary that is not behind it. -/
  floor : ∀ b, IsGreatest {p | Utf8.isBoundary t.bytes p = true ∧ p ≤ min b t.bytes.size}
    (t.byteOffset (t.unitOffset b))
  /-- There and back, a unit ends where it began, unless it is the second of a pair. -/
  returns : ∀ u ≤ t.size, t.unitOffset (t.byteOffset u) =
    if Unit16.splitsPair t.units.toList u then u - 1 else u
  monotone : Monotone t.unitOffset
  byteOffset_settles : ∀ u, t.byteOffset (t.unitOffset (t.byteOffset u)) = t.byteOffset u
  unitOffset_settles : ∀ b, t.unitOffset (t.byteOffset (t.unitOffset b)) = t.unitOffset b

/-- Bytes go to the first unit of their characters. -/
theorem mapsBytes_ofUnits (units : Array Unit16) (hsmall : (ofUnits units).bytes.size ≤ UInt32.size) :
    MapsBytes (ofUnits units) (Unit16.decode units.toList) := by
  have h := laidOut_ofUnits units
  have hproper := Unit16.proper_decode units.toList
  have hbyte := h.byteOffset_eq hsmall
  have hunit := h.unitOffset_eq hsmall
  refine {
    reads := Unit16.reads_decode units.toList
    bytes := h.bytes_eq
    past_end := fun b hb => ?_
    inside := fun b hb => ?_
    floor := fun b => ?_
    returns := fun u hu => ?_
    monotone := fun a b hab => ?_
    byteOffset_settles := fun u => ?_
    unitOffset_settles := fun b => ?_ }
  · rw [hunit, h.size_eq]
    exact unitOf_of_le (h.size_bytes ▸ hb)
  · obtain ⟨j, hj, heq⟩ := unitOf_eq (h.size_bytes ▸ hb)
    exact ⟨j, hj, by rw [hunit, heq]⟩
  · rw [hbyte, hunit, h.size_bytes, h.bytes_eq]
    simp only [isBoundary_encode_iff]
    exact isGreatest_byteOf_unitOf hproper b
  · rw [hbyte, hunit]
    exact Unit16.unitOf_byteOf_decode units.toList (by simpa [size] using hu)
  · rw [hunit, hunit]
    exact monotone_unitOf _ hab
  · rw [hbyte, hbyte, hunit]
    exact byteOf_unitOf_byteOf hproper u
  · rw [hunit, hunit, hbyte]
    exact unitOf_byteOf_unitOf hproper b

/-- Both units of a pair and an unpaired surrogate, between ASCII units. -/
theorem mapsBytes_pair_and_unpaired :
    (ofUnits #[0x61, 0xdc00, 0xd83d, 0xdcbb, 0x62]).bytes.size ≤ UInt32.size ∧
      MapsBytes (ofUnits #[0x61, 0xdc00, 0xd83d, 0xdcbb, 0x62])
        (Unit16.decode [0x61, 0xdc00, 0xd83d, 0xdcbb, 0x62]) :=
  ⟨by decide, mapsBytes_ofUnits _ (by decide)⟩

end IndexedText

end Leftmost
