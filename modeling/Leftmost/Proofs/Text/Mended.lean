import Leftmost.Proofs.Text.Offsets
import Leftmost.Proofs.Text.Slice

/-!
# Leftmost.Proofs.Text.Mended

Units that go to bytes and back.  The bytes are those of the characters that the units read as, and
these characters have the same units again, U+FFFD in the place of each surrogate without a partner:

* `decode_eq_ofChars` — a character read from units has as many units as it was read from;
* `getElem?_ofChars_chars` — and the same ones, unless it stands for an unpaired surrogate;
* `ofString_toText` — so the text shown is laid out as the units were;
* `isSome_table_iff` — there is a table exactly if a character has more bytes than units;
* `roundTrips` — what units, bytes and the text shown have to do with each other.
-/

namespace Leftmost

namespace Unit16

/-- The unit at a position is a surrogate that belongs to no pair. -/
def isUnpaired (units : List Unit16) (i : Nat) : Bool :=
  units[i]?.any (fun u => u.isHigh || u.isLow) && !splitsPair units i && !splitsPair units (i + 1)

/-- The characters that units read as. -/
def chars (units : List Unit16) : List Char := (decode units).map Prod.fst

/-! ## The units of a character that was read -/

theorem ofChar_single (u : Unit16) :
    ofChar (single u) = [if u.isHigh || u.isLow then 0xfffd else u] := by
  cases h : u.isHigh || u.isLow with
  | true =>
      rw [single, h, if_pos rfl]
      rfl
  | false =>
      have hlt : u.toNat < 0x10000 := u.toNat_lt
      have hnat : (single u).toNat = u.toNat := toNat_single h
      rw [ofChar, hnat, if_pos hlt]
      simp

theorem ofChar_pair {u v : Unit16} (hu : u.isHigh = true) (hv : v.isLow = true) :
    ofChar (pair u v) = [u, v] := by
  have hnat := toNat_pair hu hv
  have hhigh := (isHigh_iff u).mp hu
  have hlow := (isLow_iff v).mp hv
  have hfirst : 0xd800 + ((pair u v).toNat - 0x10000) / 0x400 = u.toNat := by omega
  have hsecond : 0xdc00 + ((pair u v).toNat - 0x10000) % 0x400 = v.toNat := by omega
  rw [ofChar, if_neg (by omega), hfirst, hsecond]
  simp

theorem chars_of_decode {units rest : List Unit16} {c : Char} {w : Nat}
    (h : decode units = (c, w) :: decode rest) : chars units = c :: chars rest := by
  simp [chars, h]

/-- A character read from units has as many units as it was read from. -/
theorem decode_eq_ofChars (units : List Unit16) : decode units = Row.ofChars (chars units) := by
  induction units using decode_induction with
  | nil => simp [chars, Row.ofChars]
  | alone u rest hdec _ ih =>
      rw [hdec, chars_of_decode hdec, ih]
      simp [Row.ofChars, ofChar_single]
  | pair u v rest hu hv hdec ih =>
      rw [hdec, chars_of_decode hdec, ih]
      simp [Row.ofChars, ofChar_pair hu hv]

/-- Behind a unit that begins no pair, units are unpaired as in the rest. -/
theorem isUnpaired_alone {u : Unit16} {rest : List Unit16}
    (h : splitsPair (u :: rest) 1 = false) (i : Nat) :
    isUnpaired (u :: rest) (i + 1) = isUnpaired rest i := by
  simp only [isUnpaired, List.getElem?_cons_succ, splitsPair_alone h]

/-- Behind a pair, units are unpaired as in the rest. -/
theorem isUnpaired_pair {u v : Unit16} (hv : v.isLow = true) (rest : List Unit16) (i : Nat) :
    isUnpaired (u :: v :: rest) (i + 2) = isUnpaired rest i := by
  simp only [isUnpaired, List.getElem?_cons_succ, splitsPair_pair hv,
    Nat.add_right_comm i 2 1]

/-- Units come back from the characters that they read as, but for unpaired surrogates. -/
theorem getElem?_ofChars_chars (units : List Unit16) (i : Nat) :
    (ofChars (chars units))[i]? = if isUnpaired units i then some 0xfffd else units[i]? := by
  induction units using decode_induction generalizing i with
  | nil => simp [chars, ofChars, isUnpaired]
  | alone u rest hdec hu ih =>
      rw [chars_of_decode hdec, ofChars, List.flatMap_cons, ofChar_single, ← ofChars]
      cases i with
      | zero =>
          have hstart : splitsPair (u :: rest) 0 = false := rfl
          have hfirst : isUnpaired (u :: rest) 0 = (u.isHigh || u.isLow) := by
            simp [isUnpaired, hstart, hu]
          rw [hfirst]
          split <;> simp_all
      | succ i => simpa [isUnpaired_alone hu] using ih i
  | pair u v rest hu hv hdec ih =>
      rw [chars_of_decode hdec, ofChars, List.flatMap_cons, ofChar_pair hu hv, ← ofChars]
      have hsplit : splitsPair (u :: v :: rest) 1 = true := by simp [splitsPair, hu, hv]
      cases i with
      | zero => simp [isUnpaired, hsplit]
      | succ i =>
          cases i with
          | zero => simp [isUnpaired, hsplit]
          | succ i => simpa [isUnpaired_pair hv] using ih i

theorem length_ofChars_chars (units : List Unit16) :
    (ofChars (chars units)).length = units.length := by
  rw [← Row.unitLength_ofChars, ← decode_eq_ofChars, unitLength_decode]

/-- The units of the text of units. -/
theorem toList_ofString_toText (units : List Unit16) :
    (ofString (toText units)).toList = ofChars (chars units) := by
  rw [toList_ofString, toList_toText, chars]

theorem size_ofString_toText (units : List Unit16) :
    (ofString (toText units)).size = units.length := by
  rw [← Array.length_toList, toList_ofString_toText, length_ofChars_chars]

end Unit16

namespace Row

/-! ## Bytes and units of a row -/

/-- A character of two units has four bytes. -/
theorem utf8Size_of_le {c : Char} (h : 0x10000 ≤ c.toNat) : c.utf8Size = 4 := by
  have hnot {n : UInt32} (hn : n.toNat < 0x10000) : ¬c.val ≤ n := fun hle => by
    have hval : c.val.toNat ≤ n.toNat := UInt32.le_iff_toNat_le.mp hle
    have hnat : c.toNat = c.val.toNat := rfl
    omega
  rw [Char.utf8Size, if_neg (hnot (by decide)), if_neg (hnot (by decide)),
    if_neg (hnot (by decide))]

/-- A plain character has one unit for its one byte, any other has fewer units than bytes. -/
theorem length_ofChar_spec (c : Char) :
    (Unit16.ofChar c).length ≤ c.utf8Size ∧
      ((Unit16.ofChar c).length < c.utf8Size ↔ ¬IsPlain (c, (Unit16.ofChar c).length)) := by
  have hpos := c.utf8Size_pos
  unfold IsPlain Unit16.ofChar
  split
  · simp only [List.length_singleton, and_true]
    omega
  · next h =>
    have hfour := utf8Size_of_le (Nat.not_lt.mp h)
    simp [hfour]

theorem unitLength_ofChars_le (cs : List Char) :
    unitLength (ofChars cs) ≤ byteLength (ofChars cs) := by
  induction cs with
  | nil => exact Nat.le_refl 0
  | cons c cs ih =>
      have hc := (length_ofChar_spec c).1
      simp only [ofChars, List.map_cons, unitLength_cons, byteLength_cons] at ih ⊢
      omega

/-- Characters have fewer units than bytes exactly if one of them is not plain. -/
theorem unitLength_lt_byteLength_iff (cs : List Char) :
    unitLength (ofChars cs) < byteLength (ofChars cs) ↔ ∃ c ∈ ofChars cs, ¬IsPlain c := by
  induction cs with
  | nil => simp [ofChars]
  | cons c cs ih =>
      obtain ⟨hle, hlt⟩ := length_ofChar_spec c
      have hrest := unitLength_ofChars_le cs
      have hcons : ofChars (c :: cs) = (c, (Unit16.ofChar c).length) :: ofChars cs := rfl
      simp only [hcons, List.mem_cons, exists_eq_or_imp, ← hlt, ← ih, unitLength_cons,
        byteLength_cons]
      omega

end Row

namespace IndexedText

/-! ## Texts shown -/

/-- There is a table exactly if a character is not plain. -/
theorem LaidOut.isSome_table_iff {t : IndexedText} {cs : Row} (h : LaidOut t cs) :
    t.table.isSome = true ↔ ∃ c ∈ cs, ¬Row.IsPlain c := by
  cases h with
  | plain hcs => simpa using hcs
  | @wide units pre rest c hpre hc => exact ⟨fun _ => ⟨c, by simp, hc⟩, fun _ => rfl⟩

/-- So there is exactly if a unit is not ASCII. -/
theorem LaidOut.isSome_table_iff_unit {t : IndexedText} {cs : Row} (h : LaidOut t cs)
    (hread : cs = Unit16.decode t.units.toList) :
    t.table.isSome = true ↔ ∃ u ∈ t.units, 0x80 ≤ u := by
  cases ht : t.table with
  | none =>
      have hascii := h.ascii_of_no_table hread ht
      simpa using hascii
  | some table =>
      obtain ⟨u, hu, hle⟩ := (h.starts_at_first_not_ascii hread ht).2
      exact ⟨fun _ => ⟨u, Array.mem_of_getElem? hu, hle⟩, fun _ => rfl⟩

/-- The bytes of a text read as that text. -/
theorem fromUTF8?_toUTF8 (s : String) : String.fromUTF8? s.toUTF8 = some s := by
  have hvalid : s.toUTF8.IsValidUTF8 := s.isValidUTF8
  exact dif_pos hvalid

/-- Units that read as the same characters are laid out alike. -/
theorem ofUnits_congr {us vs : Array Unit16}
    (h : Unit16.decode us.toList = Unit16.decode vs.toList) :
    ofUnits us = { ofUnits vs with units := us } := by
  simp only [ofUnits, h]

/-- The text shown is laid out as the units were. -/
theorem ofString_toText (units : Array Unit16) : ofString (ofUnits units).toText =
    { ofUnits units with units := Unit16.ofString (ofUnits units).toText } := by
  refine ofUnits_congr ?_
  rw [toText, units_ofUnits, Unit16.toList_ofString_toText, Unit16.decode_ofChars,
    ← Unit16.decode_eq_ofChars]

theorem bytes_eq_toUTF8 (units : Array Unit16) :
    (ofUnits units).bytes = (ofUnits units).toText.toUTF8 := by
  rw [← bytes_ofString, ofString_toText]

theorem size_ofString_toText (units : Array Unit16) :
    (Unit16.ofString (ofUnits units).toText).size = units.size := by
  rw [toText, units_ofUnits, Unit16.size_ofString_toText, Array.length_toList]

/-- Both offset maps depend on the number of units and not on the units. -/
theorem byteOffset_congr (t : IndexedText) {units : Array Unit16}
    (h : units.size = t.units.size) (u : Nat) :
    byteOffset { t with units } u = t.byteOffset u := by
  simp only [byteOffset, h]

theorem unitOffset_congr (t : IndexedText) {units : Array Unit16}
    (h : units.size = t.units.size) (b : Nat) :
    unitOffset { t with units } b = t.unitOffset b := by
  simp only [unitOffset, h]

/-- What units, their bytes and the text shown have to do with each other. -/
structure RoundTrips (units : Array Unit16) : Prop where
  /-- The bytes are those of the characters that the units read as. -/
  reads : ∃ cs, Unit16.Reads units.toList cs ∧ (ofUnits units).bytes = Row.encode cs
  /-- They are UTF-8, and read as the text shown. -/
  valid : String.fromUTF8? (ofUnits units).bytes = some (ofUnits units).toText
  /-- This text has as many units again, the same ones but for unpaired surrogates. -/
  size_back : (Unit16.ofString (ofUnits units).toText).size = units.size
  getElem?_back : ∀ i, (Unit16.ofString (ofUnits units).toText)[i]? =
    if Unit16.isUnpaired units.toList i then some 0xfffd else units[i]?
  /-- Held in both forms, it has the same bytes, length and offsets. -/
  bytes_shown : (ofString (ofUnits units).toText).bytes = (ofUnits units).bytes
  size_shown : (ofString (ofUnits units).toText).size = (ofUnits units).size
  byteOffset_shown : ∀ u,
    (ofString (ofUnits units).toText).byteOffset u = (ofUnits units).byteOffset u
  unitOffset_shown : ∀ b,
    (ofString (ofUnits units).toText).unitOffset b = (ofUnits units).unitOffset b
  /-- A unit that is not ASCII makes for more bytes than units, and nothing else does. -/
  hasMultiByte_iff_unit : (ofUnits units).hasMultiByte = true ↔ ∃ u ∈ units, 0x80 ≤ u
  hasMultiByte_iff_size :
    (ofUnits units).hasMultiByte = true ↔ (ofUnits units).size < (ofUnits units).bytes.size

/-- Units come back from their bytes but for unpaired surrogates, the text shown has the bytes and
the offsets of the units, and the bytes of a text are its UTF-8 form. -/
theorem roundTrips : (∀ units, RoundTrips units) ∧ ∀ s, (ofString s).bytes = s.toUTF8 := by
  refine ⟨fun units => ?_, bytes_ofString⟩
  have h := laidOut_ofUnits units
  have hsize := size_ofString_toText units
  have hshown := ofString_toText units
  refine {
    reads := ⟨_, Unit16.reads_decode units.toList, h.bytes_eq⟩
    valid := ?_
    size_back := hsize
    getElem?_back := fun i => ?_
    bytes_shown := by rw [hshown]
    size_shown := hsize
    byteOffset_shown := fun u => ?_
    unitOffset_shown := fun b => ?_
    hasMultiByte_iff_unit := ?_
    hasMultiByte_iff_size := ?_ }
  · rw [bytes_eq_toUTF8, fromUTF8?_toUTF8]
  · rw [← Array.getElem?_toList, toText, units_ofUnits, Unit16.toList_ofString_toText,
      Unit16.getElem?_ofChars_chars, Array.getElem?_toList]
  · rw [hshown]
    exact byteOffset_congr _ hsize u
  · rw [hshown]
    exact unitOffset_congr _ hsize b
  · exact h.isSome_table_iff_unit rfl
  · rw [hasMultiByte, h.isSome_table_iff, h.size_eq, h.size_bytes, Unit16.decode_eq_ofChars]
    exact (Row.unitLength_lt_byteLength_iff _).symm

end IndexedText

end Leftmost
