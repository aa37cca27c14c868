import Leftmost.Proofs.Registry.Run
import Mathlib.Data.List.Count
import Mathlib.Order.Bounds.Defs

/-!
# Leftmost.Proofs.Registry.Occupancy

Which slots of a store are in use, after any calls whatever.  `Balanced` says how the free list, the
count of live patterns and the slots account for each other; a slot is added only when all others
are in use, so that the number of slots tells how many patterns were live when most were:

* `WellFormed.countP_occupied` — the live patterns are the slots that hold one;
* `WellFormed.slots_serve` — what one call does to the number of slots;
* `balanced_serveAll` — any calls leave a store balanced, with as many slots as patterns were ever
  live at one time.
-/

namespace Leftmost

/-- A call to a store: a request, or one that only reads. -/
inductive Call where
  | request (q : Request)
  | get (h : Handle)
  | findBest (hs : List Handle) (text : ByteArray) (start : Nat)

/-- What a call answers. -/
inductive Answer where
  | replied (a : Reply)
  | got (found : Except ScanError Compiled)
  | searched (best : Except ScanError FlatMatch)

namespace Registry

/-- Carries out a call. -/
def serve (r : Registry) : Call → Answer × Registry
  | .request q => (.replied (r.perform q).1, (r.perform q).2)
  | .get h => (.got (r.get h), r)
  | .findBest hs text start => (.searched (r.findBest hs text start).value, r)

/-- Carries out calls one after the other. -/
def serveAll (r : Registry) : List Call → List Answer × Registry
  | [] => ([], r)
  | c :: cs => ((r.serve c).1 :: ((r.serve c).2.serveAll cs).1, ((r.serve c).2.serveAll cs).2)

theorem serveAll_cons (r : Registry) (c : Call) (cs : List Call) :
    (r.serveAll (c :: cs)).2 = ((r.serve c).2.serveAll cs).2 := rfl

theorem WellFormed.serve {r : Registry} (wf : WellFormed r) (c : Call) :
    WellFormed (r.serve c).2 := by
  cases c with
  | request q => exact wf.perform q
  | get h => exact wf
  | findBest hs text start => exact wf

theorem WellFormed.serveAll {r : Registry} (wf : WellFormed r) (cs : List Call) :
    WellFormed (r.serveAll cs).2 := by
  induction cs generalizing r with
  | nil => exact wf
  | cons c cs ih => exact ih (wf.serve c)

/-! ## Slots in use -/

/-- Counting in a list by way of its positions. -/
theorem countP_range_getElem? {α : Type} (p : α → Bool) (xs : List α) :
    (List.range xs.length).countP (fun i => xs[i]?.any p) = xs.countP p := by
  induction xs with
  | nil => rfl
  | cons x xs ih =>
      rw [List.length_cons, List.range_succ_eq_map, List.countP_cons, List.countP_map,
        List.countP_cons, ← ih]
      rfl

/-- The free list is as long as there are slots without a pattern. -/
theorem WellFormed.length_free {r : Registry} (wf : WellFormed r) :
    r.free.length = r.slots.toList.countP (·.pattern.isNone) := by
  have hperm : r.free.Perm ((List.range r.slots.toList.length).filter
      fun i => r.slots.toList[i]?.any (·.pattern.isNone)) := by
    rw [List.perm_ext_iff_of_nodup wf.free_nodup (List.nodup_range.filter _)]
    intro i
    rw [wf.mem_free, List.mem_filter, List.mem_range, Array.getElem?_toList]
    constructor
    · rintro ⟨g, hg⟩
      exact ⟨(Array.getElem?_eq_some_iff.mp hg).1, by rw [hg]; rfl⟩
    · rintro ⟨-, hi⟩
      obtain ⟨⟨g, o⟩, hs, ho⟩ := (Option.any_eq_true _ _).mp hi
      obtain rfl : o = none := Option.isNone_iff_eq_none.mp ho
      exact ⟨g, hs⟩
  rw [hperm.length_eq, ← List.countP_eq_length_filter, countP_range_getElem?]

/-- The live patterns are the slots that hold one. -/
theorem WellFormed.countP_occupied {r : Registry} (wf : WellFormed r) :
    r.live = r.slots.toList.countP (·.pattern.isSome) := by
  have hall := List.length_eq_countP_add_countP (fun s : Slot => s.pattern.isSome)
    (l := r.slots.toList)
  have hrest : r.slots.toList.countP (fun s => ¬s.pattern.isSome) =
      r.slots.toList.countP (·.pattern.isNone) := by
    refine List.countP_congr fun s _ => ?_
    cases s.pattern <;> simp
  rw [hrest, ← wf.length_free, Array.length_toList, ← wf.live_add_free] at hall
  omega

/-- Two tokens that stand for patterns in one slot are the same. -/
theorem eq_of_slot_eq {r : Registry} {h k : Handle} {p p' : Compiled} (hp : r.get? h = some p)
    (hp' : r.get? k = some p') (hslot : h.slot = k.slot) : h = k := by
  have hk := get?_of_slot hslot (get?_eq_some_iff.mp hp')
  rw [hp] at hk
  by_contra hne
  rw [if_neg hne] at hk
  cases hk

/-- The free list, the count of live patterns and the slots account for each other. -/
structure Balanced (r : Registry) : Prop where
  free_nodup : r.free.Nodup
  /-- The free list names the slots without a pattern. -/
  mem_free : ∀ i, i ∈ r.free ↔ ∃ g, r.slots[i]? = some ⟨g, none⟩
  live_eq_occupied : r.live = r.slots.toList.countP (·.pattern.isSome)
  /-- The free list never names more slots than there are. -/
  live_eq : r.free.length ≤ r.slots.size ∧ r.live = r.slots.size - r.free.length
  /-- Whenever a pattern can be given up, there is one to be taken off the count. -/
  live_pos : ∀ h p, r.get? h = some p → 0 < r.live
  generation_le : ∀ (i : Nat) (s : Slot), r.slots[i]? = some s →
    s.generation ≤ Handle.halfSize - 1
  /-- Tokens that stand for patterns have slots of their own. -/
  slot_injective : ∀ h k p p', r.get? h = some p → r.get? k = some p' → h.slot = k.slot → h = k

theorem WellFormed.balanced {r : Registry} (wf : WellFormed r) : Balanced r where
  free_nodup := wf.free_nodup
  mem_free := wf.mem_free
  live_eq_occupied := wf.countP_occupied
  live_eq := by
    have := wf.live_add_free
    omega
  live_pos _ _ hp := wf.live_pos hp
  generation_le i s hs := Nat.le_sub_one_of_lt (wf.generation_lt i s hs)
  slot_injective _ _ _ _ := eq_of_slot_eq

/-! ## The number of slots -/

theorem size_slots_dispose (r : Registry) (hs : List Handle) :
    (r.dispose hs).2.slots.size = r.slots.size := by
  induction hs generalizing r with
  | nil => rfl
  | cons h hs ih =>
      rw [dispose_cons, ih]
      cases hp : r.get? h with
      | none => rw [disposeOne_of_none hp]
      | some p =>
          rw [disposeOne_of_some hp]
          exact Array.size_setIfInBounds

/-- A slot is added only when no other is free, and then all of them are in use. -/
theorem WellFormed.slots_insertCompiled {r : Registry} (wf : WellFormed r)
    (compiled : Except ScanError Compiled) :
    (r.insertCompiled compiled).2.slots.size = r.slots.size ∨
      (r.insertCompiled compiled).2.slots.size = r.slots.size + 1 ∧
        (r.insertCompiled compiled).2.size = (r.insertCompiled compiled).2.slots.size := by
  cases compiled with
  | error e => exact .inl rfl
  | ok p =>
      rw [show (r.insertCompiled (.ok p)).2 = (r.insert p).2 from rfl]
      cases hf : r.free with
      | nil =>
          by_cases hroom : r.slots.size < capacity
          · have hlive := wf.live_add_free
            rw [hf, List.length_nil, Nat.add_zero] at hlive
            rw [(insert_of_room hf hroom p).2]
            simp [Registry.grow, Registry.size, hlive]
          · rw [(insert_of_full hf (Nat.not_lt.mp hroom) p).2]
            exact .inl rfl
      | cons slot free =>
          rw [(insert_of_free hf p).2]
          exact .inl Array.size_setIfInBounds

/-- A call leaves the number of slots, or adds one; then as many patterns are live. -/
theorem WellFormed.slots_serve {r : Registry} (wf : WellFormed r) (c : Call) :
    (r.serve c).2.slots.size = r.slots.size ∨
      (r.serve c).2.slots.size = r.slots.size + 1 ∧
        (r.serve c).2.size = (r.serve c).2.slots.size := by
  cases c with
  | request q =>
      cases q with
      | compile source => exact wf.slots_insertCompiled _
      | compileBytes source => exact wf.slots_insertCompiled _
      | dispose hs => exact .inl (size_slots_dispose r hs)
      | reconfigure s => exact .inl rfl
  | get h => exact .inl rfl
  | findBest hs text start => exact .inl rfl

/-- Slots are never taken away. -/
theorem WellFormed.slots_le_serveAll {r : Registry} (wf : WellFormed r) (cs : List Call) (k : Nat) :
    (r.serveAll (cs.take k)).2.slots.size ≤ (r.serveAll cs).2.slots.size := by
  induction cs generalizing r k with
  | nil => simp
  | cons c cs ih =>
      cases k with
      | zero =>
          have hrest : (r.serve c).2.slots.size ≤ (r.serveAll (c :: cs)).2.slots.size :=
            ih (wf.serve c) 0
          have hfirst := wf.slots_serve c
          rw [show (r.serveAll ((c :: cs).take 0)).2 = r from rfl]
          omega
      | succ k => exact ih (wf.serve c) k

/-- If calls add slots, there is a state on their way in which as many patterns are live as there
are slots in the end. -/
theorem WellFormed.exists_size_eq_slots {r : Registry} (wf : WellFormed r) (cs : List Call) :
    (r.serveAll cs).2.slots.size = r.slots.size ∨
      ∃ k, (r.serveAll (cs.take k)).2.size = (r.serveAll cs).2.slots.size := by
  induction cs generalizing r with
  | nil => exact .inl rfl
  | cons c cs ih =>
      rw [serveAll_cons]
      rcases ih (wf.serve c) with hsame | ⟨k, hk⟩
      · rw [hsame]
        rcases wf.slots_serve c with hfirst | ⟨-, hfull⟩
        · exact .inl hfirst
        · exact .inr ⟨1, hfull⟩
      · exact .inr ⟨k + 1, hk⟩

/-- Any calls leave a store that was empty at first balanced, and with as many slots as patterns
were ever live at one time. -/
theorem balanced_serveAll (s : Settings) (e : Engines) (cs : List Call) :
    Balanced ((ofSettings s e).serveAll cs).2 ∧
      IsGreatest {n | ∃ k, n = ((ofSettings s e).serveAll (cs.take k)).2.size}
        ((ofSettings s e).serveAll cs).2.slots.size := by
  have wf := wellFormed_ofSettings s e
  refine ⟨(wf.serveAll cs).balanced, ?_, ?_⟩
  · rcases wf.exists_size_eq_slots cs with hsame | ⟨k, hk⟩
    · exact ⟨0, hsame⟩
    · exact ⟨k, hk.symm⟩
  · rintro n ⟨k, rfl⟩
    have hlive := (wf.serveAll (cs.take k)).live_add_free
    have hle := wf.slots_le_serveAll cs k
    rw [Registry.size]
    omega

end Registry

end Leftmost
