import Leftmost.Proofs.Text.LaidOut

/-!
# Leftmost.Proofs.Text.Slice

Parts of a text that begin and end between characters.  A text is held as bytes and as units; the
same part is cut out of both, and reads as the same characters although each form is decoded by
itself, out of its context:

* `decode_ofString`, `decodeLossy_encode` — either form of a whole row of characters reads as it;
* `encode_extract`, `units_extract` — what is cut out between the beginnings of two characters is
  the form of the characters from the one to the other;
* `substring_unitOffset` — so the bytes from one boundary to another read as the units between the
  places that the two go to.
-/

namespace Leftmost

/-- Characters in a row, each with the number of units that it has. -/
def Row.ofChars (cs : List Char) : Row := cs.map fun c => (c, (Unit16.ofChar c).length)

namespace Unit16

/-! ## The units of characters -/

/-- The units of characters. -/
def ofChars (cs : List Char) : List Unit16 := cs.flatMap ofChar

theorem toList_ofString (s : String) : (ofString s).toList = ofChars s.toList := by
  have hfold (cs : List Char) (out : Array Unit16) :
      (cs.foldl (fun (out : Array Unit16) c => out ++ ofChar c) out).toList =
        out.toList ++ ofChars cs := by
    induction cs generalizing out with
    | nil => simp [ofChars]
    | cons c cs ih => rw [List.foldl_cons, ih]; simp [ofChars]
  rw [ofString, String.foldl_eq_foldl_toList, hfold]
  rfl

theorem isHigh_iff (u : Unit16) : u.isHigh = true ↔ 0xd800 ≤ u.toNat ∧ u.toNat < 0xdc00 := by
  simp [isHigh, UInt16.le_iff_toNat_le, UInt16.lt_iff_toNat_lt]

theorem isLow_iff (u : Unit16) : u.isLow = true ↔ 0xdc00 ≤ u.toNat ∧ u.toNat < 0xe000 := by
  simp [isLow, UInt16.le_iff_toNat_le, UInt16.lt_iff_toNat_lt]

/-- A unit that is no surrogate is a character, whatever follows. -/
theorem decode_cons {u : Unit16} (h : (u.isHigh || u.isLow) = false) (rest : List Unit16) :
    decode (u :: rest) = (single u, 1) :: decode rest := by
  cases rest with
  | nil => simp
  | cons v rest =>
      refine decode_alone ?_ rest
      simp [(Bool.or_eq_false_iff.mp h).1]

theorem decode_of_toNat_eq {c : Char} {u : Unit16} (h : u.toNat = c.toNat) (rest : List Unit16) :
    decode (u :: rest) = (c, 1) :: decode rest := by
  have hvalid : c.toNat < 0xd800 ∨ 0xdfff < c.toNat ∧ c.toNat < 0x110000 := c.valid
  have hnot : (u.isHigh || u.isLow) = false := by
    rw [Bool.eq_false_iff, ne_eq, isSurrogate_iff]
    omega
  rw [decode_cons hnot, Char.toNat_inj.mp ((toNat_single hnot).trans h)]

theorem decode_of_toNat_pair_eq {c : Char} {u v : Unit16} (hc : 0x10000 ≤ c.toNat)
    (hu : u.toNat = 0xd800 + (c.toNat - 0x10000) / 0x400)
    (hv : v.toNat = 0xdc00 + (c.toNat - 0x10000) % 0x400) (rest : List Unit16) :
    decode (u :: v :: rest) = (c, 2) :: decode rest := by
  have hvalid : c.toNat < 0xd800 ∨ 0xdfff < c.toNat ∧ c.toNat < 0x110000 := c.valid
  have hhigh : u.isHigh = true := (isHigh_iff u).mpr (by omega)
  have hlow : v.isLow = true := (isLow_iff v).mpr (by omega)
  have hpair : (pair u v).toNat = c.toNat := by
    rw [toNat_pair hhigh hlow]
    omega
  rw [decode_pair (by rw [hhigh, hlow]; rfl), Char.toNat_inj.mp hpair]

/-- The units of a character are read as that character, whatever follows. -/
theorem decode_ofChar_append (c : Char) (rest : List Unit16) :
    decode (ofChar c ++ rest) = (c, (ofChar c).length) :: decode rest := by
  have hvalid : c.toNat < 0xd800 ∨ 0xdfff < c.toNat ∧ c.toNat < 0x110000 := c.valid
  unfold ofChar
  split
  · next hc => exact decode_of_toNat_eq (UInt16.toNat_ofNat_of_lt' hc) rest
  · next hc =>
    have hu := UInt16.toNat_ofNat_of_lt' (n := 0xd800 + (c.toNat - 0x10000) / 0x400)
      (by unfold UInt16.size; omega)
    have hv := UInt16.toNat_ofNat_of_lt' (n := 0xdc00 + (c.toNat - 0x10000) % 0x400)
      (by unfold UInt16.size; omega)
    exact decode_of_toNat_pair_eq (Nat.not_lt.mp hc) hu hv rest

/-- The units of characters are read as those characters. -/
theorem decode_ofChars (cs : List Char) : decode (ofChars cs) = Row.ofChars cs := by
  induction cs with
  | nil => simp [ofChars, Row.ofChars]
  | cons c cs ih =>
      rw [ofChars, List.flatMap_cons, decode_ofChar_append, ← ofChars, ih]
      rfl

/-- The units of a text are read as its characters. -/
theorem decode_ofString (s : String) : decode (ofString s).toList = Row.ofChars s.toList := by
  rw [toList_ofString, decode_ofChars]

theorem toList_toText (units : List Unit16) :
    (toText units).toList = (decode units).map Prod.fst := by
  have hfold (row : Row) (out : String) :
      (row.foldl (fun out c => out.push c.1) out).toList = out.toList ++ row.map Prod.fst := by
    induction row generalizing out with
    | nil => simp
    | cons c row ih => simp [ih]
  rw [toText, hfold, String.toList_empty, List.nil_append]

theorem toText_ofChars (cs : List Char) : toText (ofChars cs) = String.ofList cs := by
  rw [← String.toList_inj, toList_toText, decode_ofChars, String.toList_ofList]
  simp [Row.ofChars, Function.comp_def]

end Unit16

namespace Row

/-! ## The bytes of characters -/

@[simp] theorem map_fst_ofChars (cs : List Char) : (ofChars cs).map Prod.fst = cs := by
  simp [ofChars, Function.comp_def]

theorem ofChars_append (cs ds : List Char) : ofChars (cs ++ ds) = ofChars cs ++ ofChars ds := by
  simp [ofChars]

theorem take_ofChars (cs : List Char) (i : Nat) : (ofChars cs).take i = ofChars (cs.take i) := by
  simp [ofChars]

theorem proper_ofChars (cs : List Char) : Proper (ofChars cs) := by
  rw [← Unit16.decode_ofChars]
  exact Unit16.proper_decode _

/-- No character has more than two units for each of its bytes. -/
theorem unitLength_le {cs : Row} (hcs : Proper cs) : unitLength cs ≤ 2 * byteLength cs := by
  induction cs with
  | nil => simp
  | cons c cs ih =>
      have hpos := c.1.utf8Size_pos
      have hwidth := hcs c (by simp)
      have := ih fun d hd => hcs d (by simp [hd])
      rw [unitLength_cons, byteLength_cons]
      omega

theorem encode_ofChars (cs : List Char) : encode (ofChars cs) = cs.utf8Encode := by
  simp [encode, ofChars, List.utf8Encode, List.flatMap_map]

/-- The bytes of a character are read as that character, whatever stands around them. -/
theorem charAt_encode (before : Row) (c : Char × Nat) (rest : Row) :
    Utf8.charAt (encode (before ++ c :: rest)) (byteLength before) = some c.1 := by
  have hextract : (encode (before ++ c :: rest)).extract (byteLength before)
      (encode (before ++ c :: rest)).size = encode (c :: rest) := by
    rw [encode_append]
    exact ByteArray.extract_append_eq_right (by simp) (by simp)
  rw [Utf8.charAt, ByteArray.utf8DecodeChar?_eq_utf8DecodeChar?_extract, hextract, encode_cons]
  exact ByteArray.utf8DecodeChar?_utf8EncodeChar_append

/-- Reading on from the beginning of a character gives the characters from there on. -/
theorem toList_lossyFrom (before rest : Row) {fuel : Nat} (hfuel : byteLength rest ≤ fuel)
    (done : String) :
    (Utf8.lossyFrom (encode (before ++ rest)) fuel (byteLength before) done).toList =
      done.toList ++ rest.map Prod.fst := by
  induction rest generalizing before fuel done with
  | nil => cases fuel <;> simp [Utf8.lossyFrom]
  | cons c rest ih =>
      have hpos := c.1.utf8Size_pos
      rw [byteLength_cons] at hfuel
      obtain ⟨fuel, rfl⟩ : ∃ n, fuel = n + 1 := ⟨fuel - 1, by omega⟩
      have hlt : byteLength before < (encode (before ++ c :: rest)).size := by
        rw [size_encode, byteLength_append, byteLength_cons]
        omega
      have hnext := ih (before ++ [c]) (by omega : byteLength rest ≤ fuel) (done.push c.1)
      rw [List.append_assoc, List.singleton_append, byteLength_append, byteLength_cons,
        byteLength_nil, Nat.add_zero] at hnext
      rw [Utf8.lossyFrom, if_pos hlt, charAt_encode]
      simp only [hnext, String.toList_push, List.map_cons, List.append_assoc,
        List.singleton_append]

/-- The bytes of characters are read as those characters. -/
theorem decodeLossy_encode (cs : List Char) :
    Utf8.decodeLossy (encode (ofChars cs)) = String.ofList cs := by
  have h := toList_lossyFrom [] (ofChars cs) (Nat.le_of_eq (size_encode _).symm) ""
  rw [← String.toList_inj, String.toList_ofList]
  simpa [Utf8.decodeLossy, map_fst_ofChars] using h

/-! ## Parts -/

/-- Two boundaries cut characters into those before, between and behind them. -/
theorem exists_parts {cs : List Char} {a b : Nat} (hab : a ≤ b)
    (ha : Utf8.isBoundary (encode (ofChars cs)) a = true)
    (hb : Utf8.isBoundary (encode (ofChars cs)) b = true) :
    ∃ before part behind, cs = before ++ part ++ behind ∧ a = byteLength (ofChars before) ∧
      b = byteLength (ofChars (before ++ part)) := by
  obtain ⟨i, rfl⟩ := isBoundary_encode_iff.mp ha
  obtain ⟨j, rfl⟩ := isBoundary_encode_iff.mp hb
  by_cases hij : i ≤ j
  · have hsplit := (take_eq_append cs hij).symm
    refine ⟨cs.take i, (cs.take j).drop i, cs.drop j, ?_, ?_, ?_⟩
    · rw [hsplit, List.take_append_drop]
    · rw [take_ofChars]
    · rw [hsplit, take_ofChars]
  · -- The boundaries are one, and nothing is between them.
    have heq : byteLength ((ofChars cs).take j) = byteLength ((ofChars cs).take i) :=
      Nat.le_antisymm (byteLength_take_le _ (by omega)) hab
    refine ⟨cs.take i, [], cs.drop i, by simp, ?_, ?_⟩
    · rw [take_ofChars]
    · rw [List.append_nil, heq, take_ofChars]

/-- The bytes of a part, cut out. -/
theorem encode_extract (before part behind : List Char) :
    (encode (ofChars (before ++ part ++ behind))).extract (byteLength (ofChars before))
      (byteLength (ofChars (before ++ part))) = encode (ofChars part) := by
  have hleft : (encode (ofChars part) ++ encode (ofChars behind)).extract 0
      (byteLength (ofChars part)) = encode (ofChars part) :=
    ByteArray.extract_append_eq_left (size_encode _).symm
  simpa [ofChars_append, encode_append, ByteArray.append_assoc, hleft] using
    ByteArray.extract_append_size_add (a := encode (ofChars before))
      (b := encode (ofChars part) ++ encode (ofChars behind)) (i := 0)
      (j := byteLength (ofChars part))

/-- The boundary behind characters goes to the unit behind them. -/
theorem unitOf_ofChars_append (cs ds : List Char) :
    unitOf (ofChars (cs ++ ds)) (byteLength (ofChars cs)) = unitLength (ofChars cs) := by
  simpa [ofChars_append] using unitOf_take (ofChars cs ++ ofChars ds) (ofChars cs).length

theorem unitLength_ofChars (cs : List Char) :
    unitLength (ofChars cs) = (Unit16.ofChars cs).length := by
  rw [← Unit16.decode_ofChars, Unit16.unitLength_decode]

/-- The units of a part, cut out. -/
theorem units_extract (before part behind : List Char) :
    (Unit16.ofChars (before ++ part ++ behind)).extract (unitLength (ofChars before))
      (unitLength (ofChars (before ++ part))) = Unit16.ofChars part := by
  rw [ofChars_append, unitLength_append, unitLength_ofChars, unitLength_ofChars,
    List.extract_eq_take_drop, Nat.add_sub_cancel_left]
  simp [Unit16.ofChars]

end Row

namespace IndexedText

open Row

theorem substring_of_le {t : IndexedText} {i j : Nat} (hij : i ≤ j) (hj : j ≤ t.size) :
    t.substring i j = Unit16.toText (t.units.toList.extract i j) := by
  simp only [substring, Nat.min_eq_left hj, Nat.min_eq_left (Nat.le_trans hij hj),
    Nat.min_eq_left hij, Nat.max_eq_right hij, Array.toList_extract]

theorem laidOut_ofString (s : String) : LaidOut (ofString s) (Row.ofChars s.toList) := by
  have h := laidOut_ofUnits (Unit16.ofString s)
  rwa [Unit16.decode_ofString] at h

theorem encode_toList (s : String) : encode (Row.ofChars s.toList) = s.toUTF8 := by
  rw [encode_ofChars, String.utf8Encode_toList]
  rfl

theorem bytes_ofString (s : String) : (ofString s).bytes = s.toUTF8 := by
  rw [(laidOut_ofString s).bytes_eq, encode_toList]

variable {s : String} (hs : s.utf8ByteSize ≤ UInt32.size)
include hs

theorem size_bytes_ofString_le : (ofString s).bytes.size ≤ UInt32.size := by
  rw [bytes_ofString]
  exact hs

theorem unitOffset_ofString (a : Nat) :
    (ofString s).unitOffset a = unitOf (Row.ofChars s.toList) a :=
  (laidOut_ofString s).unitOffset_eq (size_bytes_ofString_le hs) a

theorem byteOffset_ofString (u : Nat) :
    (ofString s).byteOffset u = byteOf (Row.ofChars s.toList) u :=
  (laidOut_ofString s).byteOffset_eq (size_bytes_ofString_le hs) u

/-- A boundary goes to units and back to itself. -/
theorem byteOffset_unitOffset {a : Nat} (ha : Utf8.isBoundary s.toUTF8 a = true) :
    (ofString s).byteOffset ((ofString s).unitOffset a) = a := by
  rw [← encode_toList] at ha
  obtain ⟨j, rfl⟩ := isBoundary_encode_iff.mp ha
  rw [unitOffset_ofString hs, byteOffset_ofString hs, unitOf_take,
    byteOf_take (proper_ofChars s.toList)]

/-- The units between the places that two boundaries go to read as the bytes between the two. -/
theorem substring_unitOffset {a b : Nat} (hab : a ≤ b)
    (ha : Utf8.isBoundary s.toUTF8 a = true) (hb : Utf8.isBoundary s.toUTF8 b = true) :
    (ofString s).substring ((ofString s).unitOffset a) ((ofString s).unitOffset b) =
      Utf8.decodeLossy (s.toUTF8.extract a b) := by
  rw [← encode_toList] at ha hb ⊢
  rw [unitOffset_ofString hs, unitOffset_ofString hs]
  obtain ⟨before, part, behind, hcs, rfl, rfl⟩ := exists_parts hab ha hb
  have hunits : (ofString s).units.toList = Unit16.ofChars (before ++ part ++ behind) := by
    rw [← hcs]
    exact Unit16.toList_ofString s
  have hsize : (ofString s).size = unitLength (Row.ofChars (before ++ part ++ behind)) := by
    rw [unitLength_ofChars, ← hunits]
    exact Array.length_toList.symm
  have hfirst : unitOf (Row.ofChars (before ++ part ++ behind)) (byteLength (Row.ofChars before)) =
      unitLength (Row.ofChars before) := by
    rw [List.append_assoc, unitOf_ofChars_append]
  have hle : unitLength (Row.ofChars before) ≤ unitLength (Row.ofChars (before ++ part)) := by
    rw [ofChars_append, unitLength_append]
    omega
  have hend : unitLength (Row.ofChars (before ++ part)) ≤ (ofString s).size := by
    simp only [hsize, ofChars_append, unitLength_append]
    omega
  calc
    _ = (ofString s).substring (unitLength (Row.ofChars before))
          (unitLength (Row.ofChars (before ++ part))) := by
        rw [hcs, hfirst, unitOf_ofChars_append]
    _ = Unit16.toText (Unit16.ofChars part) := by
        rw [substring_of_le hle hend, hunits, units_extract]
    _ = String.ofList part := Unit16.toText_ofChars part
    _ = _ := by
        rw [hcs, encode_extract, decodeLossy_encode]

end IndexedText

end Leftmost
