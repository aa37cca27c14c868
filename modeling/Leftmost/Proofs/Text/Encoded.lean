import Leftmost.Proofs.Text.Row
import Leftmost.Text.Utf8

/-!
# Leftmost.Proofs.Text.Encoded

The UTF-8 form of characters in a row. A byte of it continues a character unless a character
begins there, so that the boundaries of the bytes are the beginnings of the characters and the end.
-/

namespace Leftmost

namespace Utf8

/-- A fact about all bytes follows from the 256 values. -/
theorem forall_byte {P : UInt8 → Prop} (h : ∀ n < 256, P (UInt8.ofNat n)) (x : UInt8) : P x := by
  have := h x.toNat x.toNat_lt
  rwa [UInt8.ofNat_toNat] at this

/-- A byte that can begin a character continues none. -/
theorem isContinuation_of_first (x : UInt8) : x.IsUTF8FirstByte → isContinuation x = false :=
  forall_byte (P := fun x => x.IsUTF8FirstByte → isContinuation x = false) (by decide +kernel) x

/-- A byte with the mark of those that follow continues a character. -/
theorem isContinuation_mark (x : UInt8) : isContinuation (x &&& 0x3f ||| 0x80) = true :=
  forall_byte (P := fun x => isContinuation (x &&& 0x3f ||| 0x80) = true) (by decide +kernel) x

/-- Of the bytes of a character all but the first continue it. -/
theorem isContinuation_getElem {c : Char} {i : Nat} (hi : i < (String.utf8EncodeChar c).length) :
    isContinuation (String.utf8EncodeChar c)[i] = decide (0 < i) := by
  cases i with
  | zero => exact isContinuation_of_first _ (UInt8.isUTF8FirstByte_getElem_utf8EncodeChar.mpr rfl)
  | succ i =>
      rw [String.length_utf8EncodeChar] at hi
      match hc : c.utf8Size, c.utf8Size_le_four, i, hi with
      | 2, _, 0, _ => simp [String.utf8EncodeChar_eq_cons_cons hc, isContinuation_mark]
      | 3, _, 0, _ | 3, _, 1, _ =>
          simp [String.utf8EncodeChar_eq_cons_cons_cons hc, isContinuation_mark]
      | 4, _, 0, _ | 4, _, 1, _ | 4, _, 2, _ =>
          simp [String.utf8EncodeChar_eq_cons_cons_cons_cons hc, isContinuation_mark]

end Utf8

namespace Row

/-- The UTF-8 form of a row. -/
def encode (cs : Row) : ByteArray := (cs.flatMap fun c => String.utf8EncodeChar c.1).toByteArray

@[simp] theorem encode_nil : encode [] = ByteArray.empty := rfl

theorem encode_append (cs ds : Row) : encode (cs ++ ds) = encode cs ++ encode ds := by
  simp [encode, List.toByteArray_append]

theorem encode_cons (c : Char × Nat) (cs : Row) :
    encode (c :: cs) = (String.utf8EncodeChar c.1).toByteArray ++ encode cs := by
  simp [encode, List.toByteArray_append]

@[simp] theorem size_encode (cs : Row) : (encode cs).size = byteLength cs := by
  induction cs with
  | nil => rfl
  | cons c cs ih => rw [encode_cons, ByteArray.size_append, ih]; simp

theorem byteAt_append_left {a b : ByteArray} {p : Nat} (h : p < a.size) :
    Utf8.byteAt (a ++ b) p = a[p] := by
  have hp : p < (a ++ b).size := by
    rw [ByteArray.size_append]
    omega
  rw [Utf8.byteAt, dif_pos hp, ByteArray.getElem_append_left h]

theorem byteAt_append_right {a b : ByteArray} {p : Nat} (h : a.size ≤ p) :
    Utf8.byteAt (a ++ b) p = Utf8.byteAt b (p - a.size) := by
  unfold Utf8.byteAt
  by_cases hp : p < (a ++ b).size
  · have hp' := hp
    rw [ByteArray.size_append] at hp'
    rw [dif_pos hp, dif_pos (by omega), ByteArray.getElem_append_right h]
  · have hp' := hp
    rw [ByteArray.size_append] at hp'
    rw [dif_neg hp, dif_neg (by omega)]

/-- A byte continues a character unless a character begins there. -/
theorem isContinuation_byteAt_iff {cs : Row} {p : Nat} (hp : p < byteLength cs) :
    Utf8.isContinuation (Utf8.byteAt (encode cs) p) = false ↔
      ∃ j, p = byteLength (cs.take j) := by
  induction cs generalizing p with
  | nil => simp at hp
  | cons c cs ih =>
      rw [byteLength_cons] at hp
      have hpos := c.1.utf8Size_pos
      have hsize : (String.utf8EncodeChar c.1).toByteArray.size = c.1.utf8Size := by simp
      rw [encode_cons]
      by_cases hc : p < c.1.utf8Size
      · -- Within the first character only its first byte begins one.
        rw [byteAt_append_left (by omega), List.getElem_toByteArray, Utf8.isContinuation_getElem,
          decide_eq_false_iff_not]
        constructor
        · intro h0
          exact ⟨0, by simp; omega⟩
        · rintro ⟨j, hj⟩
          cases j with
          | zero => simp at hj; omega
          | succ j => simp at hj; omega
      · rw [byteAt_append_right (by omega), hsize, ih (by omega)]
        constructor
        · rintro ⟨j, hj⟩
          exact ⟨j + 1, by simp; omega⟩
        · rintro ⟨j, hj⟩
          cases j with
          | zero => simp at hj; omega
          | succ j => exact ⟨j, by simp at hj; omega⟩

/-- The boundaries of a row in UTF-8 are the beginnings of its characters and its end. -/
theorem isBoundary_encode_iff {cs : Row} {p : Nat} :
    Utf8.isBoundary (encode cs) p = true ↔ ∃ j, p = byteLength (cs.take j) := by
  simp only [Utf8.isBoundary, size_encode, Bool.or_eq_true, Bool.and_eq_true, beq_iff_eq,
    decide_eq_true_eq, Bool.not_eq_true']
  constructor
  · rintro ((h0 | hend) | ⟨hlt, hcont⟩)
    · exact ⟨0, by simp [h0]⟩
    · exact ⟨cs.length, by simp [hend]⟩
    · exact (isContinuation_byteAt_iff hlt).mp hcont
  · rintro ⟨j, hj⟩
    have hle : p ≤ byteLength cs := by
      have := byteLength_take_le cs (Nat.le_max_left j cs.length)
      rw [List.take_of_length_le (Nat.le_max_right j cs.length)] at this
      omega
    rcases Nat.lt_or_eq_of_le hle with hlt | heq
    · exact .inr ⟨hlt, (isContinuation_byteAt_iff hlt).mpr ⟨j, hj⟩⟩
    · exact .inl (.inr heq)

end Row

end Leftmost
