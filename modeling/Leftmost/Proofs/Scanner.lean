import Leftmost.Proofs.Flattened
import Leftmost.Proofs.Text.Slice
import Leftmost.Scanner

/-!
# Leftmost.Proofs.Scanner

What a scanner makes of the groups of a match and of their offsets.

* `Capture.ofBounds_of_le` — a group that ends no earlier than it begins has a length;
* `getElem?_of_capturesFrom` — a group of a match is converted by itself;
* `exists_capturesFrom`, `exists_mem_of_capturesFrom_eq_error` — all of them have a length, or one of
  them ends before it begins;
* `toNat_unitOf`, `unitOf_ne_unsetOffset` — offsets in units fit their width, and none is mistaken
  for that of a group that took no part.
-/

namespace Leftmost

/-! ## Groups -/

namespace Capture

theorem ofBounds_unset (index : Nat) (stop : Offset) :
    ofBounds index unsetOffset stop = .ok ⟨index, unsetOffset, stop, 0⟩ := rfl

/-- A group that ends no earlier than it begins has a length. -/
theorem ofBounds_of_le (index : Nat) {start stop : Offset} (h : start ≤ stop) :
    ofBounds index start stop = .ok ⟨index, start, stop, stop - start⟩ := by
  by_cases hset : start = unsetOffset
  · -- Nothing is behind the greatest offset.
    have hmax : start.toNat = 2 ^ 64 - 1 := by rw [hset]; rfl
    have hle := UInt64.le_iff_toNat_le.mp h
    have hstop : stop = start := UInt64.toNat_inj.mp (by have := stop.toNat_lt; omega)
    rw [hstop, UInt64.sub_self, hset, ofBounds_unset]
  · rw [ofBounds, if_neg hset, Checked.sub_of_le h]
    rfl

/-- One that ends before it begins has none. -/
theorem ofBounds_of_lt (index : Nat) {start stop : Offset} (hset : start ≠ unsetOffset)
    (h : stop < start) : ofBounds index start stop = .error .difference := by
  rw [ofBounds, if_neg hset, Checked.sub_of_lt h]
  rfl

/-- What becomes of the bounds. -/
theorem of_ofBounds {index : Nat} {start stop : Offset} {c : Capture}
    (h : ofBounds index start stop = .ok c) :
    c.index = index ∧ c.start = start ∧ c.stop = stop := by
  by_cases hset : start = unsetOffset
  · subst hset
    cases h
    exact ⟨rfl, rfl, rfl⟩
  · rcases UInt64.le_or_lt start stop with hle | hlt
    · rw [ofBounds_of_le index hle, Except.ok.injEq] at h
      subst h
      exact ⟨rfl, rfl, rfl⟩
    · rw [ofBounds_of_lt index hset hlt] at h
      cases h

end Capture

namespace ScanMatch

variable {convert : Offset → Offset} {index : Nat}

theorem captureOf_of_unset {b : Offset × Offset} (h : b.1 = unsetOffset) :
    captureOf convert index b = .ok ⟨index, unsetOffset, unsetOffset, 0⟩ := by
  rw [captureOf, if_pos h, Capture.ofBounds_unset]

theorem captureOf_of_set {b : Offset × Offset} (h : b.1 ≠ unsetOffset) :
    captureOf convert index b = Capture.ofBounds index (convert b.1) (convert b.2) := if_neg h

theorem index_of_captureOf {b : Offset × Offset} {c : Capture}
    (h : captureOf convert index b = .ok c) : c.index = index := by
  unfold captureOf at h
  split at h
  · exact (Capture.of_ofBounds h).1
  · exact (Capture.of_ofBounds h).1

theorem start_of_captureOf {b : Offset × Offset} {c : Capture}
    (h : captureOf convert index b = .ok c) :
    c.start = if b.1 = unsetOffset then unsetOffset else convert b.1 := by
  by_cases hset : b.1 = unsetOffset
  · rw [captureOf_of_unset hset, Except.ok.injEq] at h
    rw [if_pos hset, ← h]
  · rw [captureOf_of_set hset] at h
    rw [if_neg hset, (Capture.of_ofBounds h).2.1]

/-- A group ends before it begins, once its bounds are converted. -/
def EndsBefore (convert : Offset → Offset) (b : Offset × Offset) : Prop :=
  b.1 ≠ unsetOffset ∧ convert b.2 < convert b.1

/-- Only such a group has no length. -/
theorem endsBefore_of_captureOf {b : Offset × Offset} {o : Overflow}
    (h : captureOf convert index b = .error o) : EndsBefore convert b := by
  by_cases hset : b.1 = unsetOffset
  · rw [captureOf_of_unset hset] at h
    cases h
  · refine ⟨hset, UInt64.not_le.mp fun hle => ?_⟩
    rw [captureOf_of_set hset, Capture.ofBounds_of_le index hle] at h
    cases h

theorem capturesFrom_cons (convert : Offset → Offset) (index : Nat) (b : Offset × Offset)
    (bounds : List (Offset × Offset)) : capturesFrom convert index (b :: bounds) =
      (captureOf convert index b).bind fun c =>
        (capturesFrom convert (index + 1) bounds).map (c :: ·) := rfl

/-- The groups of a list come from its first group and from the others. -/
theorem capturesFrom_cons_eq_ok_iff {b : Offset × Offset} {bounds : List (Offset × Offset)}
    {cs : List Capture} : capturesFrom convert index (b :: bounds) = .ok cs ↔
      ∃ c rest, captureOf convert index b = .ok c ∧
        capturesFrom convert (index + 1) bounds = .ok rest ∧ cs = c :: rest := by
  rw [capturesFrom_cons]
  cases captureOf convert index b with
  | error o => simp [Except.bind]
  | ok c =>
      cases capturesFrom convert (index + 1) bounds with
      | error o => simp [Except.bind, Except.map]
      | ok rest => simp [Except.bind, Except.map, eq_comm]

/-- Groups are converted one by one, and numbered. -/
theorem getElem?_of_capturesFrom {bounds : List (Offset × Offset)} {cs : List Capture}
    (h : capturesFrom convert index bounds = .ok cs) (g : Nat) :
    cs[g]?.map .ok = bounds[g]?.map (captureOf convert (index + g)) := by
  induction bounds generalizing index g cs with
  | nil =>
      cases h
      rfl
  | cons b bounds ih =>
      obtain ⟨c, rest, hc, hrest, rfl⟩ := capturesFrom_cons_eq_ok_iff.mp h
      cases g with
      | zero => simp [hc]
      | succ g =>
          rw [List.getElem?_cons_succ, List.getElem?_cons_succ, ih hrest, Nat.add_right_comm,
            ← Nat.add_assoc]

theorem length_of_capturesFrom {bounds : List (Offset × Offset)} {cs : List Capture}
    (h : capturesFrom convert index bounds = .ok cs) : cs.length = bounds.length := by
  induction bounds generalizing index cs with
  | nil =>
      cases h
      rfl
  | cons b bounds ih =>
      obtain ⟨c, rest, -, hrest, rfl⟩ := capturesFrom_cons_eq_ok_iff.mp h
      rw [List.length_cons, ih hrest, List.length_cons]

/-- Where a pass over the groups stops, one of them ends before it begins. -/
theorem exists_mem_of_capturesFrom_eq_error {bounds : List (Offset × Offset)} {o : Overflow}
    (h : capturesFrom convert index bounds = .error o) : ∃ b ∈ bounds, EndsBefore convert b := by
  induction bounds generalizing index o with
  | nil => cases h
  | cons b bounds ih =>
      rw [capturesFrom_cons] at h
      cases hc : captureOf convert index b with
      | error o => exact ⟨b, by simp, endsBefore_of_captureOf hc⟩
      | ok c =>
          cases hrest : capturesFrom convert (index + 1) bounds with
          | error o =>
              obtain ⟨b', hmem, hbefore⟩ := ih hrest
              exact ⟨b', by simp [hmem], hbefore⟩
          | ok rest => simp [hc, hrest, Except.bind, Except.map] at h

/-- If none does, all of them have a length. -/
theorem exists_capturesFrom {bounds : List (Offset × Offset)}
    (h : ∀ b ∈ bounds, ¬EndsBefore convert b) (index : Nat) :
    ∃ cs, capturesFrom convert index bounds = .ok cs := by
  cases hcs : capturesFrom convert index bounds with
  | ok cs => exact ⟨cs, rfl⟩
  | error o =>
      obtain ⟨b, hmem, hbefore⟩ := exists_mem_of_capturesFrom_eq_error hcs
      exact absurd hbefore (h b hmem)

/-! ## Matches -/

variable {m : FlatMatch}

theorem ofFlat?_eq_none_iff : ofFlat? m convert = .ok none ↔ m.isMatch = false := by
  unfold ofFlat?
  cases m.isMatch with
  | false => simp [pure, Except.pure]
  | true => cases capturesFrom convert 0 m.groups <;> simp [Except.map]

theorem ofFlat?_eq_some_iff {found : ScanMatch} : ofFlat? m convert = .ok (some found) ↔
    m.isMatch = true ∧ found.index = m.index ∧
      capturesFrom convert 0 m.groups = .ok found.captures := by
  unfold ofFlat?
  obtain ⟨index, captures⟩ := found
  cases m.isMatch with
  | false => simp [pure, Except.pure]
  | true =>
      cases capturesFrom convert 0 m.groups <;>
        simp [Except.map, eq_comm]

theorem ofFlat?_eq_error_iff {o : Overflow} : ofFlat? m convert = .error o ↔
    m.isMatch = true ∧ capturesFrom convert 0 m.groups = .error o := by
  unfold ofFlat?
  cases m.isMatch with
  | false => simp [pure, Except.pure]
  | true => cases capturesFrom convert 0 m.groups <;> simp [Except.map]

/-- The groups of a region that was flattened. -/
theorem captures_of_ofFlat {r : Region} {found : ScanMatch}
    (h : ofFlat? (.ofRegion r index) convert = .ok (some found)) :
    capturesFrom convert 0 r.bounds.toList = .ok found.captures := by
  have hcaptures := (ofFlat?_eq_some_iff.mp h).2.2
  rwa [FlatMatch.groups_ofRegion] at hcaptures

/-- A region that the program stops at has a group that ends before it begins. -/
theorem exists_group_of_ofFlat_eq_error {r : Region} {o : Overflow}
    (h : ofFlat? (.ofRegion r index) convert = .error o) :
    ∃ g, r.isSet g = true ∧ convert (r.last g) < convert (r.first g) := by
  have hstops := (ofFlat?_eq_error_iff.mp h).2
  rw [FlatMatch.groups_ofRegion] at hstops
  obtain ⟨b, hb, hset, hlt⟩ := exists_mem_of_capturesFrom_eq_error hstops
  rw [FlatMatch.bounds_eq_map] at hb
  obtain ⟨g, -, rfl⟩ := List.mem_map.mp hb
  exact ⟨g, bne_iff_ne.mpr hset, hlt⟩

end ScanMatch

namespace Scanner

/-- The match of an outcome, if it is one. -/
def found? {α : Type} : Except ScanError (Except Overflow (Option α)) → Option α
  | .ok (.ok found) => found
  | _ => none

theorem eq_of_found {α : Type} {outcome : Except ScanError (Except Overflow (Option α))} {a : α}
    (h : found? outcome = some a) : outcome = .ok (.ok (some a)) := by
  unfold found? at h
  split at h
  · rw [h]
  · cases h

/-! ## Offsets in units -/

section

variable {units : Array Unit16} (hsmall : (IndexedText.ofUnits units).bytes.size ≤ UInt32.size)
include hsmall

/-- Offsets in units are less than the offset of a group that took no part. -/
theorem size_lt_unsetOffset : units.size < unsetOffset.toNat := by
  have h := IndexedText.laidOut_ofUnits units
  have hle := Row.unitLength_le (Unit16.proper_decode units.toList)
  have hsize : units.size = _ := h.size_units
  have hbytes := h.size_bytes
  have hroom : 2 * UInt32.size < unsetOffset.toNat := by decide
  omega

theorem toNat_unitOf (o : Offset) :
    (unitOf (.ofUnits units) o).toNat = (IndexedText.ofUnits units).unitOffset o.toNat := by
  have hle := (IndexedText.laidOut_ofUnits units).unitOffset_le hsmall o.toNat
  have hlt := size_lt_unsetOffset hsmall
  exact UInt64.toNat_ofNat_of_lt' (Nat.lt_trans (Nat.lt_of_le_of_lt hle hlt) (by decide))

theorem unitOf_mono {o o' : Offset} (h : o ≤ o') :
    unitOf (.ofUnits units) o ≤ unitOf (.ofUnits units) o' := by
  rw [UInt64.le_iff_toNat_le, toNat_unitOf hsmall, toNat_unitOf hsmall]
  exact (IndexedText.laidOut_ofUnits units).unitOffset_mono hsmall (UInt64.le_iff_toNat_le.mp h)

theorem unitOf_ne_unsetOffset (o : Offset) : unitOf (.ofUnits units) o ≠ unsetOffset := by
  intro h
  have hle := (IndexedText.laidOut_ofUnits units).unitOffset_le hsmall o.toNat
  rw [← toNat_unitOf hsmall, h] at hle
  exact absurd (size_lt_unsetOffset hsmall) (Nat.not_lt.mpr hle)

end

end Scanner

end Leftmost
