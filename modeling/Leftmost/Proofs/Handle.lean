import Leftmost.Handle
import Mathlib.Data.Nat.Init

/-!
# Leftmost.Proofs.Handle

The packed form of a token, in numbers: the word of a token is its slot plus one and, times
`halfSize`, its generation. Tokens whose halves have room for both (`Handle.Fits`) and words whose
low half is not zero are the same thing in two forms:

* `ofRaw?_eq` — which words are tokens, and of what;
* `toNat_toRaw` — the word of a token;
* `ofRaw?_toRaw`, `toRaw_of_ofRaw?` — there and back, in both orders.
-/

namespace Leftmost

namespace Handle

/-- Slot and generation have room in their halves. -/
structure Fits (h : Handle) : Prop where
  slot_lt : h.slot + 1 < halfSize
  generation_lt : h.generation < halfSize

/-- The halves of a word, taken for those of a token. -/
def unpack (raw : UInt64) : Handle := ⟨raw.toNat % halfSize - 1, raw.toNat / halfSize⟩

/-- The low half of a word is zero. -/
def IsNull (raw : UInt64) : Prop := raw.toNat % halfSize = 0

instance (raw : UInt64) : Decidable (IsNull raw) := inferInstanceAs (Decidable (_ = 0))

/-- Only the low half decides whether a word is a token; both halves say of what. -/
theorem ofRaw?_eq (raw : UInt64) :
    ofRaw? raw = if IsNull raw then none else some (unpack raw) := by
  have hmask : (raw &&& (halfSize - 1).toUInt64).toNat = raw.toNat % halfSize := by
    rw [UInt64.toNat_and, show halfSize = 2 ^ halfBits from rfl, ← Nat.and_two_pow_sub_one_eq_mod]
    rfl
  have hhigh : (raw >>> halfBits.toUInt64).toNat = raw.toNat / halfSize := by
    rw [UInt64.toNat_shiftRight, Nat.shiftRight_eq_div_pow]
    rfl
  have hzero : raw &&& (halfSize - 1).toUInt64 = 0 ↔ IsNull raw := by
    rw [← UInt64.toNat_inj, hmask]
    rfl
  simp only [ofRaw?, hzero, hmask, hhigh]
  rfl

theorem ofRaw?_eq_some_iff {raw : UInt64} {h : Handle} :
    ofRaw? raw = some h ↔ ¬IsNull raw ∧ unpack raw = h := by
  rw [ofRaw?_eq]
  split <;> simp_all

/-- The word of a token: the slot never carries into the half of the generation. -/
theorem toNat_toRaw {h : Handle} (fits : Fits h) :
    h.toRaw.toNat = h.slot + 1 + h.generation * halfSize := by
  obtain ⟨slot, generation⟩ := h
  obtain ⟨hslot, hgeneration⟩ := fits
  simp only [halfSize_eq] at hslot hgeneration ⊢
  have hlow : (slot + 1).toUInt64.toNat = slot + 1 := UInt64.toNat_ofNat_of_lt' (by
    rw [show UInt64.size = 2 ^ 64 from rfl]
    omega)
  have hshift : (generation.toUInt64 <<< halfBits.toUInt64).toNat = generation <<< 32 := by
    have hfits : generation.toUInt64.toNat = generation := UInt64.toNat_ofNat_of_lt' (by
      rw [show UInt64.size = 2 ^ 64 from rfl]
      omega)
    rw [UInt64.toNat_shiftLeft, hfits, show halfBits.toUInt64.toNat % 64 = 32 from rfl,
      Nat.shiftLeft_eq, Nat.mod_eq_of_lt (by omega)]
  rw [toRaw, UInt64.toNat_or, hlow, hshift, Nat.or_comm,
    ← Nat.shiftLeft_add_eq_or_of_lt hslot, Nat.shiftLeft_eq, Nat.add_comm]

theorem not_isNull_toRaw {h : Handle} (fits : Fits h) : ¬IsNull h.toRaw := by
  have hslot := fits.slot_lt
  rw [IsNull, toNat_toRaw fits, Nat.add_mul_mod_self_right, Nat.mod_eq_of_lt hslot]
  omega

theorem unpack_toRaw {h : Handle} (fits : Fits h) : unpack h.toRaw = h := by
  obtain ⟨slot, generation⟩ := h
  have hslot : slot + 1 < halfSize := fits.slot_lt
  rw [unpack, toNat_toRaw fits, Nat.add_mul_mod_self_right, Nat.add_mul_div_right _ _ halfSize_pos,
    Nat.mod_eq_of_lt hslot, Nat.div_eq_of_lt hslot, Nat.add_sub_cancel, Nat.zero_add]

/-- A token is read back from its word. -/
theorem ofRaw?_toRaw {h : Handle} (fits : Fits h) : ofRaw? h.toRaw = some h :=
  ofRaw?_eq_some_iff.mpr ⟨not_isNull_toRaw fits, unpack_toRaw fits⟩

theorem toRaw_ne_zero {h : Handle} (fits : Fits h) : h.toRaw ≠ 0 := fun hzero =>
  not_isNull_toRaw fits (by rw [hzero]; rfl)

/-- A word that is a token has room for it. -/
theorem fits_unpack {raw : UInt64} (hraw : ¬IsNull raw) : Fits (unpack raw) := by
  have hpos : 0 < raw.toNat % halfSize := Nat.pos_of_ne_zero hraw
  have hlow := Nat.mod_lt raw.toNat halfSize_pos
  have hlt := raw.toNat_lt
  refine ⟨by simp only [unpack]; omega, ?_⟩
  simp only [unpack, halfSize_eq]
  omega

/-- A word is the packed form of the token that it is read as. -/
theorem toRaw_unpack {raw : UInt64} (hraw : ¬IsNull raw) : (unpack raw).toRaw = raw := by
  have hpos : 0 < raw.toNat % halfSize := Nat.pos_of_ne_zero hraw
  have hsplit := Nat.mod_add_div raw.toNat halfSize
  rw [← UInt64.toNat_inj, toNat_toRaw (fits_unpack hraw), unpack, Nat.sub_add_cancel hpos,
    Nat.mul_comm, hsplit]

theorem toRaw_of_ofRaw? {raw : UInt64} {h : Handle} (hraw : ofRaw? raw = some h) :
    h.toRaw = raw := by
  obtain ⟨hnull, rfl⟩ := ofRaw?_eq_some_iff.mp hraw
  exact toRaw_unpack hnull

/-- Different tokens have different words. -/
theorem toRaw_inj {h k : Handle} (hfits : Fits h) (kfits : Fits k) :
    h.toRaw = k.toRaw ↔ h = k := by
  refine ⟨fun heq => ?_, fun heq => by rw [heq]⟩
  rw [← unpack_toRaw hfits, heq, unpack_toRaw kfits]

end Handle

end Leftmost
