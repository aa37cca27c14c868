import Leftmost.Proofs.Text.Decoded
import Leftmost.Proofs.Text.Encoded
import Leftmost.Proofs.Text.Table

/-!
# Leftmost.Proofs.Text.LaidOut

A text that is held in both forms is the row of its decoded characters, laid out: plain characters
in front, and from the first that is not plain on a table with one entry for each unit.

* `laidOut_ofUnits` — reading units one character after the other lays out their row;
* `LaidOut.byteOffset_of_table` — the table gives the map of the row, cut to the width of an entry;
* `LaidOut.byteOffset_eq` — the offset map to bytes is that of the row;
* `LaidOut.unitOffset_eq` — so is the search back to units;
* `LaidOut.byteOffset_le`, `LaidOut.unitOffset_le` — neither leads out of the text.

The last three hold as long as the bytes are few enough for the width of the entries.
-/

namespace Leftmost

namespace Row

/-! ## Steps of a row -/

theorem byteOf_lt {cs : Row} {u : Nat} (hu : u < unitLength cs) : byteOf cs u < byteLength cs := by
  induction cs generalizing u with
  | nil => simp at hu
  | cons c cs ih =>
      obtain ⟨c, w⟩ := c
      simp only [unitLength_cons, byteLength_cons] at hu ⊢
      have hpos := c.utf8Size_pos
      by_cases hw : u < w
      · rw [byteOf_cons_of_lt hw]
        omega
      · obtain ⟨v, rfl⟩ := Nat.exists_eq_add_of_le (Nat.not_lt.mp hw)
        rw [byteOf_cons_add]
        have := ih (u := v) (by omega)
        omega

/-- Two units on, another character holds the unit. -/
theorem byteOf_lt_add_two {cs : Row} (hcs : Proper cs) {u : Nat} (hu : u + 2 < unitLength cs) :
    byteOf cs u < byteOf cs (u + 2) := by
  induction cs generalizing u with
  | nil => simp at hu
  | cons c cs ih =>
      obtain ⟨c, w⟩ := c
      rw [unitLength_cons] at hu
      have hpos := c.utf8Size_pos
      have hw2 : w = 1 ∨ w = 2 := hcs (c, w) (by simp)
      by_cases hw : u < w
      · obtain ⟨v, hv⟩ := Nat.exists_eq_add_of_le (show w ≤ u + 2 by omega)
        rw [byteOf_cons_of_lt hw, hv, byteOf_cons_add]
        omega
      · obtain ⟨v, rfl⟩ := Nat.exists_eq_add_of_le (Nat.not_lt.mp hw)
        have := ih (fun d hd => hcs d (by simp [hd])) (u := v) (by simp only at hu; omega)
        rw [Nat.add_assoc, byteOf_cons_add, byteOf_cons_add]
        omega

/-- A byte goes to the first unit whose character begins last before it. -/
theorem isFirstNotAbove_unitOf {cs : Row} (hcs : Proper cs) {b : Nat} (hb : b < byteLength cs) :
    IndexedText.IsFirstNotAbove (byteOf cs) (unitLength cs) b (unitOf cs b) := by
  induction cs generalizing b with
  | nil => simp at hb
  | cons c cs ih =>
      obtain ⟨c, w⟩ := c
      simp only [unitLength_cons, byteLength_cons] at hb ⊢
      have hw : 0 < w := by
        rcases hcs (c, w) (by simp) with h | h <;> simp only at h <;> omega
      by_cases hc : b < c.utf8Size
      · rw [unitOf, if_pos hc]
        refine ⟨by omega, by rw [byteOf_cons_of_lt hw]; omega, fun j _ hj => ?_, by omega⟩
        by_cases hjw : j < w
        · rw [byteOf_cons_of_lt hjw, byteOf_cons_of_lt hw]
        · rw [byteOf, if_neg hjw] at hj
          omega
      · obtain ⟨d, rfl⟩ := Nat.exists_eq_add_of_le (Nat.not_lt.mp hc)
        obtain ⟨hlt, hle, hgreatest, hfirst⟩ :=
          ih (fun d hd => hcs d (by simp [hd])) (b := d) (by omega)
        rw [unitOf_cons_add]
        refine ⟨by omega, by rw [byteOf_cons_add]; omega, fun j hj hjle => ?_, fun j hj => ?_⟩
        · by_cases hjw : j < w
          · rw [byteOf_cons_of_lt hjw]
            exact Nat.zero_le _
          · obtain ⟨k, rfl⟩ := Nat.exists_eq_add_of_le (Nat.not_lt.mp hjw)
            rw [byteOf_cons_add] at hjle
            rw [byteOf_cons_add, byteOf_cons_add]
            have := hgreatest k (by omega) (by omega)
            omega
        · rw [byteOf_cons_add]
          by_cases hjw : j < w
          · rw [byteOf_cons_of_lt hjw]
            have := c.utf8Size_pos
            omega
          · obtain ⟨k, rfl⟩ := Nat.exists_eq_add_of_le (Nat.not_lt.mp hjw)
            rw [byteOf_cons_add]
            have := hfirst k (by omega)
            omega

end Row

namespace IndexedText

open Row

/-! ## Building -/

/-- The entries of a row whose first character has the byte offset `base`. -/
def entries (base : Nat) : Row → List UInt32
  | [] => []
  | (c, w) :: cs => List.replicate w base.toUInt32 ++ entries (base + c.utf8Size) cs

@[simp] theorem length_entries (base : Nat) (cs : Row) :
    (entries base cs).length = unitLength cs := by
  induction cs generalizing base with
  | nil => rfl
  | cons c cs ih => simp [entries, ih]

/-- The entry of a unit is where its character begins. -/
theorem getElem?_entries (base : Nat) {cs : Row} {u : Nat} (hu : u < unitLength cs) :
    (entries base cs)[u]? = some (base + byteOf cs u).toUInt32 := by
  induction cs generalizing base u with
  | nil => simp at hu
  | cons c cs ih =>
      obtain ⟨c, w⟩ := c
      rw [unitLength_cons] at hu
      by_cases hw : u < w
      · rw [entries, List.getElem?_append_left (by simpa using hw), byteOf_cons_of_lt hw]
        simp [hw]
      · obtain ⟨v, rfl⟩ := Nat.exists_eq_add_of_le (Nat.not_lt.mp hw)
        rw [entries, List.getElem?_append_right (by simp), List.length_replicate,
          Nat.add_sub_cancel_left, ih _ (by simp only at hu; omega), byteOf_cons_add,
          Nat.add_assoc]

/-- Reads characters on. -/
def build (b : Building) (cs : Row) : Building := cs.foldl (fun b c => b.add c.1 c.2) b

/-- As long as characters are plain there is no table. -/
theorem build_plain {b : Building} (hb : b.table = none) {cs : Row} (hcs : ∀ c ∈ cs, IsPlain c) :
    build b cs =
      { b with bytes := b.bytes ++ encode cs, position := b.position + unitLength cs } := by
  induction cs generalizing b with
  | nil => simp [build]
  | cons c cs ih =>
      obtain ⟨c, w⟩ := c
      obtain ⟨hsize, rfl⟩ : c.utf8Size = 1 ∧ w = 1 := hcs (c, w) (by simp)
      have hadd : b.add c 1 = { b with
          bytes := b.bytes ++ (String.utf8EncodeChar c).toByteArray
          position := b.position + 1 } := by
        simp [Building.add, hb, hsize]
      have hgo := ih (b := b.add c 1) (by rw [hadd]; exact hb) fun d hd => hcs d (by simp [hd])
      rw [show build b ((c, 1) :: cs) = build (b.add c 1) cs from rfl, hgo, hadd, encode_cons,
        unitLength_cons, ByteArray.append_assoc, Nat.add_assoc]

/-- Once there is a table, every character adds an entry for each of its units. -/
theorem build_table {b : Building} {t : Array UInt32} (hb : b.table = some t)
    (hstart : b.tableStart ≤ b.bytes.size) (cs : Row) :
    build b cs =
      { bytes := b.bytes ++ encode cs
        position := b.position + unitLength cs
        tableStart := b.tableStart
        table := some (t ++ (entries (b.bytes.size - b.tableStart) cs).toArray) } := by
  induction cs generalizing b t with
  | nil => simp [build, entries, ← hb]
  | cons c cs ih =>
      obtain ⟨c, w⟩ := c
      have hadd : b.add c w =
          { bytes := b.bytes ++ (String.utf8EncodeChar c).toByteArray
            position := b.position + w
            tableStart := b.tableStart
            table := some (t ++ Array.replicate w (b.bytes.size - b.tableStart).toUInt32) } := by
        simp [Building.add, hb]
      have hsize : (b.add c w).bytes.size = b.bytes.size + c.utf8Size := by
        simp [hadd, ByteArray.size_append]
      have hgo := ih (b := b.add c w) (by rw [hadd]) (by rw [hsize, hadd]; simp only; omega)
      rw [show build b ((c, w) :: cs) = build (b.add c w) cs from rfl, hgo, hsize, hadd]
      have hbase : b.bytes.size + c.utf8Size - b.tableStart =
          b.bytes.size - b.tableStart + c.utf8Size := by omega
      simp [encode_cons, ByteArray.append_assoc, Nat.add_assoc, entries, hbase,
        ← List.toArray_replicate]

/-! ## Texts laid out -/

/-- A text is a row of characters, held in both forms. -/
inductive LaidOut : IndexedText → Row → Prop where
  /-- Plain characters need no table. -/
  | plain {units : Array Unit16} {cs : Row} : (∀ c ∈ cs, IsPlain c) →
      units.size = unitLength cs → LaidOut ⟨units, encode cs, 0, none⟩ cs
  /-- The table begins at the first character that is not plain. -/
  | wide {units : Array Unit16} {pre rest : Row} {c : Char × Nat} : (∀ c ∈ pre, IsPlain c) →
      ¬IsPlain c → Proper (c :: rest) → units.size = unitLength (pre ++ c :: rest) →
      LaidOut ⟨units, encode (pre ++ c :: rest), pre.length,
        some (entries 0 (c :: rest)).toArray⟩ (pre ++ c :: rest)

/-- Characters in front are plain up to the end, or up to one that is not. -/
theorem plain_or_wide (cs : Row) : (∀ c ∈ cs, IsPlain c) ∨
    ∃ pre c rest, cs = pre ++ c :: rest ∧ (∀ d ∈ pre, IsPlain d) ∧ ¬IsPlain c := by
  induction cs with
  | nil => exact .inl (by simp)
  | cons c cs ih =>
      by_cases hc : IsPlain c
      · rcases ih with hcs | ⟨pre, d, rest, rfl, hpre, hd⟩
        · exact .inl (by simpa [hc] using hcs)
        · exact .inr ⟨c :: pre, d, rest, rfl, by simpa [hc] using hpre, hd⟩
      · exact .inr ⟨[], c, cs, rfl, by simp, hc⟩

/-- Reading units lays out the row that they decode to. -/
theorem laidOut_ofUnits (units : Array Unit16) :
    LaidOut (ofUnits units) (Unit16.decode units.toList) := by
  have hsize : units.size = unitLength (Unit16.decode units.toList) := by
    rw [Unit16.unitLength_decode, Array.length_toList]
  have hproper := Unit16.proper_decode units.toList
  have hbuild : ofUnits units =
      { units
        bytes := (build {} (Unit16.decode units.toList)).bytes
        tableStart := (build {} (Unit16.decode units.toList)).tableStart
        table := (build {} (Unit16.decode units.toList)).table } := rfl
  generalize Unit16.decode units.toList = cs at hsize hproper hbuild
  rcases plain_or_wide cs with hcs | ⟨pre, c, rest, rfl, hpre, hc⟩
  · rw [hbuild, build_plain rfl hcs]
    simpa using LaidOut.plain hcs hsize
  · obtain ⟨c, w⟩ := c
    have hrest : Proper ((c, w) :: rest) := fun d hd => hproper d (by simp [hd])
    have hwide : c.utf8Size > 1 ∨ w > 1 := by
      have hpos := c.utf8Size_pos
      have hw : w = 1 ∨ w = 2 := hrest (c, w) (by simp)
      by_contra h
      exact hc ⟨by simp only; omega, by simp only; omega⟩
    -- The table is opened, still empty, before the first character that is not plain.
    have hfirst := build_plain (b := {}) rfl hpre
    let opened : Building :=
      { bytes := encode pre, position := pre.length, tableStart := pre.length, table := some #[] }
    have hopened : (build {} pre).add c w = opened.add c w := by
      simp [hfirst, opened, Building.add, hwide, unitLength_of_plain hpre]
    have hsizepre : (encode pre).size = pre.length := by
      rw [size_encode, byteLength_of_plain hpre]
    have hall : build {} (pre ++ (c, w) :: rest) = build opened ((c, w) :: rest) := by
      simp only [build, List.foldl_append, List.foldl_cons] at hopened ⊢
      rw [hopened]
    rw [hbuild, hall, build_table (b := opened) rfl (Nat.le_of_eq hsizepre.symm)]
    simp only [opened, hsizepre, Nat.sub_self, Array.empty_append, ← encode_append]
    exact .wide hpre hc hrest hsize

/-! ## Offsets -/

/-- An entry is where the character of its unit begins, less what goes beyond its width. -/
theorem entry_entries_mod {cs : Row} {u : Nat} (hu : u < unitLength cs) :
    entry (entries 0 cs).toArray u = byteOf cs u % UInt32.size := by
  rw [entry, Array.getD_eq_getD_getElem?, List.getElem?_toArray, getElem?_entries 0 hu,
    Option.getD_some, Nat.zero_add]
  rfl

/-- An entry that fits its width is where the character of its unit begins. -/
theorem entry_entries {cs : Row} (hsmall : byteLength cs ≤ UInt32.size) {u : Nat}
    (hu : u < unitLength cs) : entry (entries 0 cs).toArray u = byteOf cs u := by
  have hlt := byteOf_lt hu
  rw [entry_entries_mod hu]
  exact Nat.mod_eq_of_lt (Nat.lt_of_lt_of_le hlt hsmall)

theorem stepped_entries {c : Char × Nat} {cs : Row} (hcs : Proper (c :: cs))
    (hsmall : byteLength (c :: cs) ≤ UInt32.size) : Stepped (entries 0 (c :: cs)).toArray := by
  have hsize : (entries 0 (c :: cs)).toArray.size = unitLength (c :: cs) := by simp
  have hw : 0 < c.2 := by rcases hcs c (by simp) with h | h <;> omega
  have hpos : 0 < unitLength (c :: cs) := by
    rw [unitLength_cons]
    omega
  refine ⟨hsize ▸ hpos, ?_, fun i j hij hj => ?_, fun i hi => ?_⟩
  · rw [entry_entries hsmall hpos]
    exact byteOf_cons_of_lt hw cs
  · rw [hsize] at hj
    rw [entry_entries hsmall hj, entry_entries hsmall (by omega)]
    exact monotone_byteOf _ hij
  · rw [hsize] at hi
    rw [entry_entries hsmall hi, entry_entries hsmall (by omega)]
    exact byteOf_lt_add_two hcs hi

/-- The search in a table goes back to the first unit of a character. -/
theorem firstEntryAt_entries {c : Char × Nat} {cs : Row} (hcs : Proper (c :: cs))
    (hsmall : byteLength (c :: cs) ≤ UInt32.size) {b : Nat} (hb : b < byteLength (c :: cs)) :
    firstEntryAt (entries 0 (c :: cs)).toArray b = unitOf (c :: cs) b := by
  have hsize : (entries 0 (c :: cs)).toArray.size = unitLength (c :: cs) := by simp
  have hfound := firstEntryAt_spec (stepped_entries hcs hsmall) b
  rw [hsize] at hfound
  exact (hfound.congr fun u hu => entry_entries hsmall hu).unique (isFirstNotAbove_unitOf hcs hb)

namespace LaidOut

variable {t : IndexedText} {cs : Row} (h : LaidOut t cs)
include h

theorem bytes_eq : t.bytes = encode cs := by
  cases h <;> rfl

theorem size_bytes : t.bytes.size = byteLength cs := by
  rw [h.bytes_eq, size_encode]

theorem size_units : t.units.size = unitLength cs := by
  cases h with
  | plain _ hsize => exact hsize
  | wide _ _ _ hsize => exact hsize

theorem size_eq : t.size = unitLength cs := h.size_units

/-- In front of the table, and from the end on, the map to bytes is that of the row. -/
theorem byteOffset_of_front {u : Nat} (hu : t.table = none ∨ u < t.tableStart ∨ t.size ≤ u) :
    t.byteOffset u = byteOf cs u := by
  have hbytes := h.size_bytes
  have hunits := h.size_units
  unfold byteOffset
  split
  · next hend => rw [hbytes, byteOf_of_le (hunits ▸ hend)]
  · next hin =>
    cases h with
    | plain hcs _ =>
        simp only at hin hunits ⊢
        rw [byteOf_of_plain hcs]
        rw [← unitLength_of_plain hcs]
        omega
    | @wide units pre rest c hpre hc hrest _ =>
        have hlt : u < pre.length := by
          rcases hu with hnone | hlt | hend
          · cases hnone
          · exact hlt
          · exact absurd hend hin
        simp only at hin ⊢
        rw [if_neg (by omega), byteOf_append_of_plain hpre hrest (Nat.le_of_lt hlt)]

/-- From its start on, the table gives the map of the row, less what goes beyond the width of an
entry. -/
theorem byteOffset_of_table {table : Array UInt32} (ht : t.table = some table) {u : Nat}
    (hle : t.tableStart ≤ u) (hlt : u < t.size) : t.tableStart ≤ byteOf cs u ∧
      t.byteOffset u = (byteOf cs u - t.tableStart) % UInt32.size + t.tableStart := by
  have hunits := h.size_units
  cases h with
  | plain => cases ht
  | @wide units pre rest c hpre hc hrest _ =>
      simp only [size] at hunits hle hlt ⊢
      rw [unitLength_append, unitLength_of_plain hpre] at hunits
      have hbyte : byteOf (pre ++ c :: rest) u =
          pre.length + byteOf (c :: rest) (u - pre.length) := by
        rw [byteOf_append, unitLength_of_plain hpre, byteLength_of_plain hpre,
          if_neg (by omega)]
      have hentry := entry_entries_mod (show u - pre.length < unitLength (c :: rest) by omega)
      rw [byteOffset, if_neg (by simp only; omega)]
      simp only [if_pos hle, hentry, hbyte]
      exact ⟨Nat.le_add_right _ _, by rw [Nat.add_sub_cancel_left]⟩

/-- Where every distance fits an entry, the map to bytes is that of the row. -/
theorem byteOffset_eq_byteOf {u : Nat}
    (hfits : u < t.size → byteOf cs u < t.tableStart + UInt32.size) :
    t.byteOffset u = byteOf cs u := by
  by_cases hu : t.table = none ∨ u < t.tableStart ∨ t.size ≤ u
  · exact h.byteOffset_of_front hu
  · obtain ⟨hsome, hu⟩ := not_or.mp hu
    obtain ⟨table, ht⟩ := Option.ne_none_iff_exists'.mp hsome
    have hlt : u < t.size := by omega
    obtain ⟨hle, hmod⟩ := h.byteOffset_of_table ht (by omega) hlt
    have hfit := hfits hlt
    rw [hmod, Nat.mod_eq_of_lt (by omega)]
    omega

/-- The map to bytes is that of the row. -/
theorem byteOffset_eq (hsmall : t.bytes.size ≤ UInt32.size) (u : Nat) :
    t.byteOffset u = byteOf cs u := by
  refine h.byteOffset_eq_byteOf fun hu => ?_
  have hlt := byteOf_lt (h.size_eq ▸ hu)
  rw [h.size_bytes] at hsmall
  omega

/-- The search back to units is that of the row. -/
theorem unitOffset_eq (hsmall : t.bytes.size ≤ UInt32.size) (b : Nat) :
    t.unitOffset b = unitOf cs b := by
  have hbytes := h.size_bytes
  have hunits := h.size_units
  unfold unitOffset
  split
  · next hend => rw [hunits, unitOf_of_le (hbytes ▸ hend)]
  · next hin =>
    cases h with
    | plain hcs _ =>
        simp only at hin hbytes ⊢
        rw [unitOf_of_plain hcs]
        rw [← byteLength_of_plain hcs]
        omega
    | @wide units pre rest c hpre hc hrest _ =>
        simp only at hin hbytes hsmall ⊢
        rw [hbytes, byteLength_append, byteLength_of_plain hpre] at hin hsmall
        rw [unitOf_append, unitLength_of_plain hpre, byteLength_of_plain hpre]
        by_cases hb : pre.length ≤ b
        · rw [if_pos hb, if_neg (by omega),
            firstEntryAt_entries hrest (by omega) (by omega)]
          omega
        · rw [if_neg hb, if_pos (by omega), unitOf_of_plain hpre (by omega)]

theorem unitOffset_mono (hsmall : t.bytes.size ≤ UInt32.size) : Monotone t.unitOffset := by
  intro a b hab
  rw [h.unitOffset_eq hsmall, h.unitOffset_eq hsmall]
  exact monotone_unitOf _ hab

theorem byteOffset_le (hsmall : t.bytes.size ≤ UInt32.size) (u : Nat) :
    t.byteOffset u ≤ t.bytes.size := by
  rw [h.byteOffset_eq hsmall, h.size_bytes]
  rcases Nat.lt_or_ge u (unitLength cs) with hlt | hge
  · exact Nat.le_of_lt (byteOf_lt hlt)
  · exact Nat.le_of_eq (byteOf_of_le hge)

theorem unitOffset_le (hsmall : t.bytes.size ≤ UInt32.size) (b : Nat) :
    t.unitOffset b ≤ t.size := by
  have hlast := h.unitOffset_mono hsmall (Nat.le_max_left b t.bytes.size)
  rwa [h.unitOffset_eq hsmall (max b _), unitOf_of_le (h.size_bytes ▸ Nat.le_max_right _ _),
    ← h.size_eq] at hlast

end LaidOut

end IndexedText

end Leftmost
