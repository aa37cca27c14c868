import Leftmost.Proofs.Text.Mended

/-!
# Leftmost.Proofs.Text.Cut

What is cut out of a text between two unit offsets.  The units cut out are decoded by themselves, and
read as they do in the text as long as no pair is cut through:

* `decode_append` — at a boundary that splits no pair, units read as what is before it and what is
  behind it, whatever surrogates stand there;
* `splitsPair_extract` — a part has no pairs that the whole does not have;
* `toUTF8_substring` — so a part has the bytes between the two offsets;
* `substring_append` — and parts that meet at such a boundary make one part;
* `cuts_ofUnits` — what is cut out of a text, for all offsets.
-/

namespace Leftmost

namespace Unit16

/-! ## Reading in parts -/

/-- A unit that begins no pair is a character of its own. -/
theorem decode_of_not_splitsPair {u : Unit16} {rest : List Unit16}
    (h : splitsPair (u :: rest) 1 = false) : decode (u :: rest) = (single u, 1) :: decode rest := by
  cases rest with
  | nil => simp
  | cons v rest => exact decode_alone (by simpa [splitsPair] using h) rest

/-- Units read on behind a boundary as if they began there, unless the boundary splits a pair. -/
theorem decode_append {us vs : List Unit16} (h : splitsPair (us ++ vs) us.length = false) :
    decode (us ++ vs) = decode us ++ decode vs := by
  induction us using decode_induction with
  | nil => simp
  | alone u rest hdec hu ih =>
      rw [List.cons_append, List.length_cons] at h
      have hfirst : splitsPair (u :: (rest ++ vs)) 1 = false := by
        cases rest with
        | nil => exact h
        | cons v rest => simpa [splitsPair] using hu
      rw [splitsPair_alone hfirst] at h
      rw [List.cons_append, decode_of_not_splitsPair hfirst, hdec, ih h, List.cons_append]
  | pair u v rest hu hv hdec ih =>
      rw [List.cons_append, List.cons_append, List.length_cons, List.length_cons,
        splitsPair_pair hv] at h
      have hpair : (u.isHigh && v.isLow) = true := by rw [hu, hv]; rfl
      rw [List.cons_append, List.cons_append, decode_pair hpair, hdec, ih h, List.cons_append]

theorem toText_append {us vs : List Unit16} (h : splitsPair (us ++ vs) us.length = false) :
    toText (us ++ vs) = toText us ++ toText vs := by
  rw [← String.toList_inj, String.toList_append, toList_toText, toList_toText, toList_toText,
    decode_append h, List.map_append]

/-- The characters of the text of units are those that the units read as. -/
theorem toUTF8_toText (units : List Unit16) :
    (toText units).toUTF8 = Row.encode (Row.ofChars (chars units)) := by
  rw [← IndexedText.encode_toList, toList_toText, chars]

/-- A part of a sequence of units has no pairs that the whole does not have. -/
theorem splitsPair_extract {units : List Unit16} {i j m : Nat}
    (h : splitsPair (units.extract i j) m = true) : splitsPair units (i + m) = true := by
  cases m with
  | zero => cases h
  | succ m =>
      simp only [splitsPair, List.extract_eq_take_drop, List.getElem?_take, List.getElem?_drop,
        Bool.and_eq_true, Option.any_eq_true, ← Nat.add_assoc] at h ⊢
      obtain ⟨⟨u, hu, hhigh⟩, v, hv, hlow⟩ := h
      exact ⟨⟨u, (Option.ite_none_right_eq_some.mp hu).2, hhigh⟩,
        v, (Option.ite_none_right_eq_some.mp hv).2, hlow⟩

/-- A part of units, cut in two. -/
theorem extract_append {units : List Unit16} {i k j : Nat} (hik : i ≤ k) (hkj : k ≤ j) :
    units.extract i j = units.extract i k ++ units.extract k j := by
  simp only [List.extract_eq_take_drop]
  rw [show j - i = (k - i) + (j - k) by omega, List.take_add, List.drop_drop,
    show i + (k - i) = k by omega]

/-- A part splits no pair where the whole splits none. -/
theorem splitsPair_extract_append {units : List Unit16} {i k j : Nat} (hik : i ≤ k) (hkj : k ≤ j)
    (hk : k ≤ units.length) (hsplit : splitsPair units k = false) :
    splitsPair (units.extract i k ++ units.extract k j) (units.extract i k).length = false := by
  have hlength : i + (units.extract i k).length = k := by
    simp only [List.extract_eq_take_drop, List.length_take, List.length_drop]
    omega
  rw [← extract_append hik hkj, Bool.eq_false_iff]
  intro h
  have hwhole := splitsPair_extract h
  rw [hlength, hsplit] at hwhole
  cases hwhole

end Unit16

namespace IndexedText

open Row

/-! ## Parts of a text -/

theorem substring_comm (t : IndexedText) (i j : Nat) : t.substring i j = t.substring j i := by
  simp only [substring, Nat.min_comm (min i t.size), Nat.max_comm (min i t.size)]

/-- Offsets behind the end are taken for the end. -/
theorem substring_min (t : IndexedText) (i j : Nat) :
    t.substring i j = t.substring (min i t.size) (min j t.size) := by
  simp only [substring, Nat.min_assoc, Nat.min_self]

theorem size_ofString_substring (t : IndexedText) (i j : Nat) :
    (Unit16.ofString (t.substring i j)).size =
      ((min i t.size : Nat) - (min j t.size : Nat) : Int).natAbs := by
  rw [substring, Unit16.size_ofString_toText, Array.length_toList, Array.size_extract]
  rw [size]
  omega

theorem length_units (t : IndexedText) : t.units.toList.length = t.size := Array.length_toList

/-- Parts of a text that meet where no pair is split make one part. -/
theorem substring_append (t : IndexedText) {i k j : Nat} (hik : i ≤ k) (hkj : k ≤ j)
    (hsplit : Unit16.splitsPair t.units.toList k = false) :
    t.substring i j = t.substring i k ++ t.substring k j := by
  rcases Nat.le_total k t.size with hk | hk
  · rw [substring_min t i j, substring_min t i k, substring_min t k j, Nat.min_eq_left hk,
      substring_of_le (by omega) (Nat.min_le_right ..), substring_of_le (by omega) hk,
      substring_of_le (by omega) (Nat.min_le_right ..),
      Unit16.extract_append (k := k) (by omega) (by omega)]
    exact Unit16.toText_append
      (Unit16.splitsPair_extract_append (by omega) (by omega) (t.length_units ▸ hk) hsplit)
  · -- Behind the end there is nothing more.
    have hnone : t.substring k j = "" := by
      rw [substring_min, Nat.min_eq_right hk, Nat.min_eq_right (Nat.le_trans hk hkj),
        substring_of_le (Nat.le_refl _) (Nat.le_refl _)]
      simp [Unit16.toText]
    rw [hnone, String.append_empty, substring_min t i j, substring_min t i k, Nat.min_eq_right hk,
      Nat.min_eq_right (Nat.le_trans hk hkj)]

/-- The boundary behind characters goes to the byte behind them. -/
theorem byteOf_ofChars_append (cs ds : List Char) :
    byteOf (ofChars (cs ++ ds)) (unitLength (ofChars cs)) = byteLength (ofChars cs) := by
  simpa [ofChars_append] using byteOf_take (proper_ofChars (cs ++ ds)) (ofChars cs).length

/-- Two boundaries that split no pair cut the characters of units into those before, between and
behind them. -/
theorem chars_parts {units : List Unit16} {p q : Nat} (hpq : p ≤ q) (hq : q ≤ units.length)
    (hsplitp : Unit16.splitsPair units p = false) (hsplitq : Unit16.splitsPair units q = false) :
    ∃ before behind, Unit16.chars units =
        before ++ Unit16.chars (units.extract p q) ++ behind ∧
      unitLength (ofChars before) = p ∧
      unitLength (ofChars (before ++ Unit16.chars (units.extract p q))) = q := by
  have hfront : units.extract 0 q = units.extract 0 p ++ units.extract p q :=
    Unit16.extract_append (Nat.zero_le p) hpq
  have hall : units = units.extract 0 q ++ units.extract q units.length := by
    rw [← Unit16.extract_append (Nat.zero_le q) hq]
    simp
  have hcharsq : Unit16.chars (units.extract 0 q) =
      Unit16.chars (units.extract 0 p) ++ Unit16.chars (units.extract p q) := by
    rw [hfront, Unit16.chars, Unit16.decode_append (Unit16.splitsPair_extract_append
      (Nat.zero_le p) hpq (Nat.le_trans hpq hq) hsplitp), List.map_append]
    rfl
  have hlength (k : Nat) (hk : k ≤ units.length) :
      unitLength (ofChars (Unit16.chars (units.extract 0 k))) = k := by
    rw [← Unit16.decode_eq_ofChars, Unit16.unitLength_decode]
    simp [hk]
  refine ⟨Unit16.chars (units.extract 0 p), Unit16.chars (units.extract q units.length), ?_,
    hlength p (Nat.le_trans hpq hq), hcharsq ▸ hlength q hq⟩
  rw [← hcharsq]
  conv_lhs => rw [hall]
  rw [Unit16.chars, Unit16.decode_append (Unit16.splitsPair_extract_append (Nat.zero_le q) hq hq
    hsplitq), List.map_append]
  rfl

/-- A part that cuts through no pair has the bytes between its ends. -/
theorem toUTF8_substring {units : Array Unit16} {p q : Nat}
    (hsmall : (ofUnits units).bytes.size ≤ UInt32.size) (hpq : p ≤ q)
    (hq : q ≤ (ofUnits units).size) (hsplitp : Unit16.splitsPair units.toList p = false)
    (hsplitq : Unit16.splitsPair units.toList q = false) :
    ((ofUnits units).substring p q).toUTF8 =
      (ofUnits units).bytes.extract ((ofUnits units).byteOffset p)
        ((ofUnits units).byteOffset q) := by
  have h := laidOut_ofUnits units
  obtain ⟨before, behind, hchars, hp', hq'⟩ :=
    chars_parts hpq ((ofUnits units).length_units ▸ hq) hsplitp hsplitq
  have hfirst : byteOf (ofChars (Unit16.chars units.toList)) p = byteLength (ofChars before) := by
    rw [hchars, List.append_assoc, ← byteOf_ofChars_append before, hp']
  have hlast : byteOf (ofChars (Unit16.chars units.toList)) q =
      byteLength (ofChars (before ++ Unit16.chars (units.toList.extract p q))) := by
    rw [hchars, ← byteOf_ofChars_append _ behind, hq']
  rw [substring_of_le hpq hq, h.byteOffset_eq hsmall, h.byteOffset_eq hsmall, h.bytes_eq,
    Unit16.decode_eq_ofChars, hfirst, hlast, hchars, encode_extract, Unit16.toUTF8_toText]
  rfl

theorem byteOffset_of_size_le (t : IndexedText) {i : Nat} (hi : t.size ≤ i) :
    t.byteOffset i = t.bytes.size := if_pos hi

theorem byteOffset_min (t : IndexedText) (i : Nat) :
    t.byteOffset (min i t.size) = t.byteOffset i := by
  rcases Nat.le_total i t.size with hi | hi
  · rw [Nat.min_eq_left hi]
  · rw [Nat.min_eq_right hi, byteOffset_of_size_le t hi, byteOffset_of_size_le t (Nat.le_refl _)]

/-- What is cut out of a text between any two unit offsets. -/
structure Cuts (t : IndexedText) : Prop where
  comm : ∀ i j, t.substring i j = t.substring j i
  size : ∀ i j, (Unit16.ofString (t.substring i j)).size =
    ((min i t.size : Nat) - (min j t.size : Nat) : Int).natAbs
  /-- Where no pair is cut through, it has the bytes between the two offsets. -/
  bytes : ∀ i j, Unit16.splitsPair t.units.toList (min i t.size) = false →
    Unit16.splitsPair t.units.toList (min j t.size) = false →
    (t.substring i j).toUTF8 = t.bytes.extract (t.byteOffset (min i j)) (t.byteOffset (max i j))
  append : ∀ i k j, i ≤ k → k ≤ j → Unit16.splitsPair t.units.toList k = false →
    t.substring i j = t.substring i k ++ t.substring k j

/-- Whatever surrogates there are in a text, what is cut out of it by units is what is cut out of its
bytes. -/
theorem cuts_ofUnits (units : Array Unit16)
    (hsmall : (ofUnits units).bytes.size ≤ UInt32.size) : Cuts (ofUnits units) where
  comm := substring_comm _
  size := size_ofString_substring _
  bytes i j hi hj := by
    have hle (k : Nat) : min k (ofUnits units).size ≤ (ofUnits units).size := Nat.min_le_right ..
    rw [substring_min]
    rcases Nat.le_total i j with hij | hji
    · have hclamped : min i (ofUnits units).size ≤ min j (ofUnits units).size := by omega
      rw [Nat.min_eq_left hij, Nat.max_eq_right hij, ← byteOffset_min _ i, ← byteOffset_min _ j]
      exact toUTF8_substring hsmall hclamped (hle j) hi hj
    · have hclamped : min j (ofUnits units).size ≤ min i (ofUnits units).size := by omega
      rw [substring_comm, Nat.min_eq_right hji, Nat.max_eq_left hji, ← byteOffset_min _ i,
        ← byteOffset_min _ j]
      exact toUTF8_substring hsmall hclamped (hle i) hj hi
  append _ _ _ := substring_append _

/-- Two high surrogates in front of two low ones: the two in the middle are a pair. -/
theorem cuts_high_high_low_low :
    (ofUnits #[0x61, 0xd83d, 0xd83d, 0xdcbb, 0xdc00]).bytes.size ≤ UInt32.size ∧
      Cuts (ofUnits #[0x61, 0xd83d, 0xd83d, 0xdcbb, 0xdc00]) :=
  ⟨by decide, cuts_ofUnits _ (by decide)⟩

end IndexedText

end Leftmost
