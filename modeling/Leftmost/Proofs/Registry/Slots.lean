import Leftmost.Registry
import Mathlib.Data.List.Perm.Subperm

/-!
# Leftmost.Proofs.Registry.Slots

The slots of a store of patterns, under storing and giving up.  `WellFormed` says how the four
fields of a store hang together: the free list names every empty slot once, and the count of live
patterns is what the free list leaves over. Each operation then has one lemma for what it does to
the look-up by token and one for `WellFormed`:

* `WellFormed.insert_spec` — a pattern is stored under a token that stood for nothing, or the store
  is full;
* `get?_disposeOne` — giving up a token takes that token away and no other.
-/

namespace Leftmost

namespace Registry

/-- How the fields of a store hang together. -/
structure WellFormed (r : Registry) : Prop where
  free_nodup : r.free.Nodup
  /-- The free list names the slots without a pattern. -/
  mem_free : ∀ i, i ∈ r.free ↔ ∃ g, r.slots[i]? = some ⟨g, none⟩
  live_add_free : r.live + r.free.length = r.slots.size
  slots_le : r.slots.size ≤ capacity
  generation_lt : ∀ (i : Nat) (s : Slot), r.slots[i]? = some s → s.generation < Handle.halfSize

theorem wellFormed_ofSettings (s : Settings) (e : Engines) : WellFormed (ofSettings s e) := by
  constructor <;> simp [ofSettings]

/-! ## Looking up -/

/-- A token stands for the pattern of its slot, if the generations agree. -/
theorem get?_eq_some_iff {r : Registry} {h : Handle} {p : Compiled} :
    r.get? h = some p ↔ r.slots[h.slot]? = some ⟨h.generation, some p⟩ := by
  unfold get?
  cases hs : r.slots[h.slot]? with
  | none => simp
  | some s =>
      obtain ⟨g, q⟩ := s
      by_cases hg : g = h.generation <;> simp [hg]

/-- No token stands for an empty slot. -/
theorem get?_of_empty {r : Registry} {h : Handle} {g : Nat}
    (hs : r.slots[h.slot]? = some ⟨g, none⟩) : r.get? h = none := by
  simp [get?, hs]

theorem get?_of_size_le {r : Registry} {h : Handle} (hs : r.slots.size ≤ h.slot) :
    r.get? h = none := by
  simp [get?, hs]

/-- The look-up sees the slots alone. -/
theorem get?_congr {r s : Registry} {h : Handle} (hs : s.slots[h.slot]? = r.slots[h.slot]?) :
    s.get? h = r.get? h := by
  simp [get?, hs]

/-- A token of a slot that holds one pattern is the token of that pattern, or none. -/
theorem get?_of_slot {r : Registry} {h k : Handle} {p : Compiled} (hk : k.slot = h.slot)
    (hs : r.slots[h.slot]? = some ⟨h.generation, some p⟩) :
    r.get? k = if k = h then some p else none := by
  obtain ⟨i, g⟩ := k
  obtain ⟨j, e⟩ := h
  cases hk
  simp [get?, hs, eq_comm]

theorem lt_size_of_get? {r : Registry} {h : Handle} {p : Compiled} (hp : r.get? h = some p) :
    h.slot < r.slots.size :=
  (Array.getElem?_eq_some_iff.mp (get?_eq_some_iff.mp hp)).1

theorem WellFormed.lt_size_of_mem_free {r : Registry} (wf : WellFormed r) {i : Nat}
    (hi : i ∈ r.free) : i < r.slots.size := by
  obtain ⟨g, hg⟩ := (wf.mem_free i).mp hi
  exact (Array.getElem?_eq_some_iff.mp hg).1

/-- A slot that holds a pattern is not free. -/
theorem WellFormed.notMem_free {r : Registry} (wf : WellFormed r) {h : Handle} {p : Compiled}
    (hp : r.get? h = some p) : h.slot ∉ r.free := by
  intro hmem
  obtain ⟨g, hg⟩ := (wf.mem_free h.slot).mp hmem
  rw [get?_eq_some_iff.mp hp] at hg
  cases hg

/-! ## Storing -/

/-- A store with one pattern more, under a token that stood for nothing. -/
structure Stored (r : Registry) (p : Compiled) (h : Handle) (s : Registry) : Prop where
  fresh : r.get? h = none
  get? : ∀ k, s.get? k = if k = h then some p else r.get? k
  size : s.size = r.size + 1
  compiler : s.compiler = r.compiler

/-- The generation of the next pattern in a slot. -/
def nextGeneration (r : Registry) (slot : Nat) : Nat :=
  ((r.slots[slot]?.map (·.generation)).getD 0 + 1) % Handle.halfSize

/-- A slot given up is used again. -/
def reuse (r : Registry) (slot : Nat) (free : List Nat) (p : Compiled) : Registry :=
  { r with
    slots := r.slots.setIfInBounds slot { generation := r.nextGeneration slot, pattern := some p }
    free
    live := r.live + 1 }

/-- A slot is added. -/
def grow (r : Registry) (p : Compiled) : Registry :=
  { r with
    slots := r.slots.push { generation := 0, pattern := some p }
    live := r.live + 1 }

theorem insert_of_free {r : Registry} {slot : Nat} {free : List Nat} (hf : r.free = slot :: free)
    (p : Compiled) : (r.insert p).1.value = .ok ⟨slot, r.nextGeneration slot⟩ ∧
      (r.insert p).2 = r.reuse slot free p := by
  simp [insert, hf, reuse, nextGeneration]

theorem insert_of_room {r : Registry} (hf : r.free = []) (hroom : r.slots.size < capacity)
    (p : Compiled) : (r.insert p).1.value = .ok ⟨r.slots.size, 0⟩ ∧ (r.insert p).2 = r.grow p := by
  simp [insert, hf, grow, Nat.not_le.mpr hroom]

theorem insert_of_full {r : Registry} (hf : r.free = []) (hfull : capacity ≤ r.slots.size)
    (p : Compiled) : (r.insert p).1.value =
        .error (.badArgument s!"too many live patterns (limit {capacity})") ∧
      (r.insert p).2 = r := by
  simp [insert, hf, hfull]

theorem getElem?_slots_reuse {r : Registry} {slot : Nat} (hlt : slot < r.slots.size)
    (free : List Nat) (p : Compiled) (i : Nat) : (r.reuse slot free p).slots[i]? =
      if i = slot then some ⟨r.nextGeneration slot, some p⟩ else r.slots[i]? := by
  by_cases hi : i = slot
  · subst hi
    simp [reuse, hlt]
  · simp [reuse, hi, Ne.symm hi]

theorem getElem?_slots_grow (r : Registry) (p : Compiled) (i : Nat) :
    (r.grow p).slots[i]? = if i = r.slots.size then some ⟨0, some p⟩ else r.slots[i]? := by
  rw [grow, Array.getElem?_push]

theorem WellFormed.stored_reuse {r : Registry} (wf : WellFormed r) {slot : Nat} {free : List Nat}
    (hf : r.free = slot :: free) (p : Compiled) :
    Stored r p ⟨slot, r.nextGeneration slot⟩ (r.reuse slot free p) := by
  obtain ⟨g, hg⟩ := (wf.mem_free slot).mp (by simp [hf])
  have hlt : slot < r.slots.size := wf.lt_size_of_mem_free (by simp [hf])
  refine ⟨get?_of_empty hg, fun k => ?_, rfl, rfl⟩
  by_cases hk : k.slot = slot
  · have hold : r.get? k = none := get?_of_empty (hk ▸ hg)
    rw [hold]
    exact get?_of_slot hk (by simp [getElem?_slots_reuse hlt])
  · rw [if_neg fun h => hk (by rw [h])]
    exact get?_congr (by simp [getElem?_slots_reuse hlt, hk])

theorem stored_grow (r : Registry) (p : Compiled) : Stored r p ⟨r.slots.size, 0⟩ (r.grow p) := by
  refine ⟨get?_of_size_le (Nat.le_refl _), fun k => ?_, rfl, rfl⟩
  by_cases hk : k.slot = r.slots.size
  · rw [get?_of_size_le (Nat.le_of_eq hk.symm)]
    exact get?_of_slot hk (by simp [getElem?_slots_grow])
  · rw [if_neg fun h => hk (by rw [h])]
    exact get?_congr (by simp [getElem?_slots_grow, hk])

theorem WellFormed.reuse {r : Registry} (wf : WellFormed r) {slot : Nat} {free : List Nat}
    (hf : r.free = slot :: free) (p : Compiled) : WellFormed (r.reuse slot free p) := by
  have hlt : slot < r.slots.size := wf.lt_size_of_mem_free (by simp [hf])
  obtain ⟨hslot, hfree⟩ := List.nodup_cons.mp (hf ▸ wf.free_nodup)
  refine ⟨hfree, fun i => ?_, ?_, ?_, fun i s hs => ?_⟩
  · rw [getElem?_slots_reuse hlt]
    have hi := wf.mem_free i
    rw [hf, List.mem_cons] at hi
    by_cases his : i = slot
    · subst his
      simpa [Registry.reuse] using hslot
    · simpa [Registry.reuse, his] using hi
  · have hlive := wf.live_add_free
    rw [hf, List.length_cons] at hlive
    simp only [Registry.reuse, Array.size_setIfInBounds]
    omega
  · simpa [Registry.reuse] using wf.slots_le
  · rw [getElem?_slots_reuse hlt] at hs
    by_cases his : i = slot
    · rw [if_pos his] at hs
      cases hs
      exact Nat.mod_lt _ (by decide)
    · rw [if_neg his] at hs
      exact wf.generation_lt i s hs

theorem WellFormed.grow {r : Registry} (wf : WellFormed r) (hroom : r.slots.size < capacity)
    (p : Compiled) : WellFormed (r.grow p) := by
  refine ⟨wf.free_nodup, fun i => ?_, ?_, ?_, fun i s hs => ?_⟩
  · rw [getElem?_slots_grow]
    by_cases hi : i = r.slots.size
    · have hno : i ∉ r.free := fun hmem => by
        have := wf.lt_size_of_mem_free hmem
        omega
      simpa [Registry.grow, hi] using hi ▸ hno
    · simpa [Registry.grow, hi] using wf.mem_free i
  · have hlive := wf.live_add_free
    simp only [Registry.grow, Array.size_push]
    omega
  · simp only [Registry.grow, Array.size_push]
    omega
  · rw [getElem?_slots_grow] at hs
    by_cases hi : i = r.slots.size
    · rw [if_pos hi] at hs
      cases hs
      exact Handle.halfSize_pos
    · rw [if_neg hi] at hs
      exact wf.generation_lt i s hs

/-- A pattern is stored if there is room for it; a full store stays as it is. -/
theorem WellFormed.insert_spec {r : Registry} (wf : WellFormed r) (p : Compiled) :
    (r.size < capacity ∧ ∃ h, (r.insert p).1.value = .ok h ∧ Stored r p h (r.insert p).2) ∨
    (capacity ≤ r.size ∧ (r.insert p).1.value =
        .error (.badArgument s!"too many live patterns (limit {capacity})") ∧
      (r.insert p).2 = r) := by
  have hlive := wf.live_add_free
  have hle := wf.slots_le
  cases hf : r.free with
  | nil =>
      rw [hf, List.length_nil] at hlive
      by_cases hroom : r.slots.size < capacity
      · obtain ⟨hv, hs⟩ := insert_of_room hf hroom p
        exact .inl ⟨by simp only [size]; omega, _, hv, hs ▸ stored_grow r p⟩
      · obtain ⟨hv, hs⟩ := insert_of_full hf (Nat.not_lt.mp hroom) p
        exact .inr ⟨by simp only [size]; omega, hv, hs⟩
  | cons slot free =>
      rw [hf, List.length_cons] at hlive
      obtain ⟨hv, hs⟩ := insert_of_free hf p
      exact .inl ⟨by simp only [size]; omega, _, hv, hs ▸ wf.stored_reuse hf p⟩

theorem WellFormed.insert {r : Registry} (wf : WellFormed r) (p : Compiled) :
    WellFormed (r.insert p).2 := by
  cases hf : r.free with
  | nil =>
      by_cases hroom : r.slots.size < capacity
      · exact (insert_of_room hf hroom p).2 ▸ wf.grow hroom p
      · rw [(insert_of_full hf (Nat.not_lt.mp hroom) p).2]
        exact wf
  | cons slot free => exact (insert_of_free hf p).2 ▸ wf.reuse hf p

/-! ## Giving up -/

/-- The slot of a token is emptied. -/
def vacate (r : Registry) (h : Handle) : Registry :=
  { r with
    slots := r.slots.setIfInBounds h.slot { generation := h.generation, pattern := none }
    free := h.slot :: r.free
    live := r.live - 1 }

theorem disposeOne_of_some {r : Registry} {h : Handle} {p : Compiled} (hp : r.get? h = some p) :
    (r.disposeOne h).2 = r.vacate h := by
  simp [disposeOne, hp, vacate]

theorem disposeOne_of_none {r : Registry} {h : Handle} (hp : r.get? h = none) :
    (r.disposeOne h).2 = r := by
  simp [disposeOne, hp]

theorem getElem?_slots_vacate {r : Registry} {h : Handle} (hlt : h.slot < r.slots.size) (i : Nat) :
    (r.vacate h).slots[i]? = if i = h.slot then some ⟨h.generation, none⟩ else r.slots[i]? := by
  by_cases hi : i = h.slot
  · subst hi
    simp [vacate, hlt]
  · simp [vacate, hi, Ne.symm hi]

/-- Giving up a token takes that token away and no other. -/
theorem get?_disposeOne (r : Registry) (h k : Handle) :
    (r.disposeOne h).2.get? k = if k = h then none else r.get? k := by
  cases hp : r.get? h with
  | none =>
      rw [disposeOne_of_none hp]
      by_cases hk : k = h
      · rw [if_pos hk, hk, hp]
      · rw [if_neg hk]
  | some p =>
      have hs := get?_eq_some_iff.mp hp
      have hlt := lt_size_of_get? hp
      rw [disposeOne_of_some hp]
      by_cases hk : k.slot = h.slot
      · -- Of the tokens of this slot only `h` stood for something.
        rw [get?_of_slot hk hs, get?_of_empty (by rw [getElem?_slots_vacate hlt, if_pos hk])]
        simp
      · rw [if_neg fun he => hk (by rw [he])]
        exact get?_congr (by rw [getElem?_slots_vacate hlt, if_neg hk])

/-- A slot that holds a pattern leaves no room for all slots to be free. -/
theorem WellFormed.live_pos {r : Registry} (wf : WellFormed r) {h : Handle} {p : Compiled}
    (hp : r.get? h = some p) : 0 < r.live := by
  have hsub : h.slot :: r.free ⊆ List.range r.slots.size := by
    intro i hi
    rw [List.mem_range]
    rcases List.mem_cons.mp hi with rfl | hi
    · exact lt_size_of_get? hp
    · exact wf.lt_size_of_mem_free hi
  have hnodup := List.nodup_cons.mpr ⟨wf.notMem_free hp, wf.free_nodup⟩
  have hlen := (List.subperm_of_subset hnodup hsub).length_le
  rw [List.length_cons, List.length_range] at hlen
  have := wf.live_add_free
  omega

theorem WellFormed.vacate {r : Registry} (wf : WellFormed r) {h : Handle} {p : Compiled}
    (hp : r.get? h = some p) : WellFormed (r.vacate h) := by
  have hs := get?_eq_some_iff.mp hp
  have hlt := lt_size_of_get? hp
  have hpos := wf.live_pos hp
  refine ⟨?_, fun i => ?_, ?_, ?_, fun i s hi => ?_⟩
  · exact List.nodup_cons.mpr ⟨wf.notMem_free hp, wf.free_nodup⟩
  · rw [getElem?_slots_vacate hlt]
    by_cases hi : i = h.slot
    · simp [Registry.vacate, hi]
    · simpa [Registry.vacate, hi] using wf.mem_free i
  · have hlive := wf.live_add_free
    simp only [Registry.vacate, List.length_cons, Array.size_setIfInBounds]
    omega
  · simpa [Registry.vacate] using wf.slots_le
  · rw [getElem?_slots_vacate hlt] at hi
    by_cases his : i = h.slot
    · rw [if_pos his] at hi
      cases hi
      exact wf.generation_lt h.slot ⟨h.generation, some p⟩ hs
    · rw [if_neg his] at hi
      exact wf.generation_lt i s hi

@[simp] theorem compiler_disposeOne (r : Registry) (h : Handle) :
    (r.disposeOne h).2.compiler = r.compiler := by
  unfold Registry.disposeOne
  split <;> rfl

theorem WellFormed.disposeOne {r : Registry} (wf : WellFormed r) (h : Handle) :
    WellFormed (r.disposeOne h).2 := by
  cases hp : r.get? h with
  | none =>
      rw [disposeOne_of_none hp]
      exact wf
  | some p =>
      rw [disposeOne_of_some hp]
      exact wf.vacate hp

theorem dispose_cons (r : Registry) (h : Handle) (hs : List Handle) :
    (r.dispose (h :: hs)).2 = ((r.disposeOne h).2.dispose hs).2 := rfl

theorem compiler_dispose (r : Registry) (hs : List Handle) :
    (r.dispose hs).2.compiler = r.compiler := by
  induction hs generalizing r with
  | nil => rfl
  | cons h hs ih => rw [dispose_cons, ih, compiler_disposeOne]

/-- Giving up tokens takes those away and no others, however often and in whatever order they
occur. -/
theorem get?_dispose (r : Registry) (hs : List Handle) (k : Handle) :
    (r.dispose hs).2.get? k = if k ∈ hs then none else r.get? k := by
  induction hs generalizing r with
  | nil => simp [Registry.dispose]
  | cons h hs ih =>
      rw [dispose_cons, ih, get?_disposeOne]
      by_cases hk : k = h <;> simp [hk]

/-- Tokens that stand for nothing are given up in vain. -/
theorem dispose_of_stale {r : Registry} {hs : List Handle} (h : ∀ k ∈ hs, r.get? k = none) :
    (r.dispose hs).2 = r := by
  induction hs with
  | nil => rfl
  | cons k hs ih =>
      obtain ⟨hk, hrest⟩ := List.forall_mem_cons.mp h
      rw [dispose_cons, disposeOne_of_none hk, ih hrest]

theorem dispose_append (r : Registry) (hs ks : List Handle) :
    (r.dispose (hs ++ ks)).2 = ((r.dispose hs).2.dispose ks).2 := by
  induction hs generalizing r with
  | nil => rfl
  | cons h hs ih => exact ih (r.disposeOne h).2

/-- So is one among others. -/
theorem dispose_append_cons {r : Registry} {k : Handle} (hk : r.get? k = none)
    (hs ks : List Handle) : (r.dispose (hs ++ k :: ks)).2 = (r.dispose (hs ++ ks)).2 := by
  have hgone : (r.dispose hs).2.get? k = none := by
    rw [get?_dispose, hk, ite_self]
  rw [dispose_append, dispose_append, dispose_cons, disposeOne_of_none hgone]

theorem WellFormed.dispose {r : Registry} (wf : WellFormed r) (hs : List Handle) :
    WellFormed (r.dispose hs).2 := by
  induction hs generalizing r with
  | nil => exact wf
  | cons h hs ih =>
      rw [dispose_cons]
      exact ih (wf.disposeOne h)

end Registry

end Leftmost
