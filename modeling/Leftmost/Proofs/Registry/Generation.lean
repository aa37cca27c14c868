import Leftmost.Proofs.Registry.Run

/-!
# Leftmost.Proofs.Registry.Generation

How long a token that was given up stands for nothing.  A slot's generation moves on by one with
every pattern stored in it, and starts again from zero behind the greatest value of a half:

* `WellFormed.slot_perform` — what one request does to a slot that exists;
* `WellFormed.slot_run` — the generation of a slot counts the patterns stored in it;
* `refused_iff_timesStored_lt` — a token given up is refused in every later state exactly as long
  as its slot takes fewer than `Handle.halfSize` patterns;
* `resolves_behind_renewals` — with that many it stands for a pattern again.
-/

namespace Leftmost

namespace Registry

/-! ## Counting -/

/-- How many patterns an answer says were stored in a slot. -/
def storedIn (i : Nat) : Reply → Nat
  | some (.ok h) => if h.slot = i then 1 else 0
  | _ => 0

/-- How often answers say that a pattern was stored in a slot. -/
def timesStored (i : Nat) : List Reply → Nat
  | [] => 0
  | a :: as => storedIn i a + timesStored i as

theorem timesStored_run_cons (i : Nat) (r : Registry) (q : Request) (qs : List Request) :
    timesStored i (r.run (q :: qs)).1 =
      storedIn i (r.perform q).1 + timesStored i ((r.perform q).2.run qs).1 := rfl

/-- A run that ends early has stored no more. -/
theorem timesStored_run_take_le (i : Nat) (r : Registry) (qs : List Request) (n : Nat) :
    timesStored i (r.run (qs.take n)).1 ≤ timesStored i (r.run qs).1 := by
  induction qs generalizing r n with
  | nil => simp
  | cons q qs ih =>
      cases n with
      | zero => exact Nat.zero_le _
      | succ n =>
          rw [List.take_succ_cons, timesStored_run_cons, timesStored_run_cons]
          have := ih (r.perform q).2 n
          omega

/-! ## One request -/

/-- A slot holds a pattern, or nothing, under a generation. -/
def HasSlot (r : Registry) (i g : Nat) (o : Option Compiled) : Prop := r.slots[i]? = some ⟨g, o⟩

theorem HasSlot.lt_size {r : Registry} {i g : Nat} {o : Option Compiled} (h : HasSlot r i g o) :
    i < r.slots.size :=
  (Array.getElem?_eq_some_iff.mp h).1

/-- How a slot may be after a request that stored `n` patterns in it. -/
inductive SlotAfter (s : Registry) (i g : Nat) (o : Option Compiled) (n : Nat) : Prop where
  /-- The generation stays, and an empty slot stays empty. -/
  | kept {o' : Option Compiled} : n = 0 → HasSlot s i g o' → (o = none → o' = none) →
      SlotAfter s i g o n
  /-- A pattern comes under the next generation. -/
  | taken {p : Compiled} : n = 1 → HasSlot s i ((g + 1) % Handle.halfSize) (some p) →
      SlotAfter s i g o n

theorem WellFormed.slot_insert {r : Registry} (wf : WellFormed r) {i g : Nat}
    {o : Option Compiled} (h : HasSlot r i g o) (p : Compiled) :
    SlotAfter (r.insert p).2 i g o (storedIn i (some (r.insert p).1.value)) := by
  cases hf : r.free with
  | nil =>
      by_cases hroom : r.slots.size < capacity
      · obtain ⟨hv, hs⟩ := insert_of_room hf hroom p
        have hne : i ≠ r.slots.size := Nat.ne_of_lt h.lt_size
        rw [hv, hs]
        refine .kept (if_neg hne.symm) ?_ id
        rw [HasSlot, getElem?_slots_grow, if_neg hne]
        exact h
      · obtain ⟨hv, hs⟩ := insert_of_full hf (Nat.not_lt.mp hroom) p
        rw [hv, hs]
        exact .kept rfl h id
  | cons slot free =>
      obtain ⟨hv, hs⟩ := insert_of_free hf p
      have hlt : slot < r.slots.size := wf.lt_size_of_mem_free (by simp [hf])
      rw [hv, hs]
      by_cases hi : i = slot
      · subst hi
        have hnext : r.nextGeneration i = (g + 1) % Handle.halfSize := by
          simp [nextGeneration, show r.slots[i]? = some ⟨g, o⟩ from h]
        refine .taken (p := p) (if_pos rfl) ?_
        rw [HasSlot, getElem?_slots_reuse hlt, if_pos rfl, hnext]
      · refine .kept (if_neg (Ne.symm hi)) ?_ id
        rw [HasSlot, getElem?_slots_reuse hlt, if_neg hi]
        exact h

theorem WellFormed.slot_insertCompiled {r : Registry} (wf : WellFormed r) {i g : Nat}
    {o : Option Compiled} (h : HasSlot r i g o) (compiled : Except ScanError Compiled) :
    SlotAfter (r.insertCompiled compiled).2 i g o
      (storedIn i (some (r.insertCompiled compiled).1.value)) := by
  cases compiled with
  | error e => exact .kept rfl h id
  | ok p => exact wf.slot_insert h p

/-- Giving up tokens leaves the generation, and an empty slot empty. -/
theorem slot_dispose {r : Registry} {i g : Nat} {o : Option Compiled} (h : HasSlot r i g o)
    (hs : List Handle) : ∃ o', HasSlot (r.dispose hs).2 i g o' ∧ (o = none → o' = none) := by
  induction hs generalizing r o with
  | nil => exact ⟨o, h, id⟩
  | cons k hs ih =>
      rw [dispose_cons]
      cases hp : r.get? k with
      | none =>
          rw [disposeOne_of_none hp]
          exact ih h
      | some p =>
          rw [disposeOne_of_some hp]
          by_cases hi : i = k.slot
          · have hk : some (Slot.mk g o) = some ⟨k.generation, some p⟩ := by
              rw [← get?_eq_some_iff.mp hp, ← hi]
              exact h.symm
            obtain ⟨rfl, rfl⟩ : g = k.generation ∧ o = some p := by simpa using hk
            have hgone : HasSlot (r.vacate k) i k.generation none := by
              rw [HasSlot, getElem?_slots_vacate (lt_size_of_get? hp), if_pos hi]
            obtain ⟨o', ho', hkept⟩ := ih hgone
            exact ⟨o', ho', fun _ => hkept rfl⟩
          · refine ih ?_
            rw [HasSlot, getElem?_slots_vacate (lt_size_of_get? hp), if_neg hi]
            exact h

/-- A request stores nothing in a slot, or a pattern under the next generation. -/
theorem WellFormed.slot_perform {r : Registry} (wf : WellFormed r) {i g : Nat}
    {o : Option Compiled} (h : HasSlot r i g o) (q : Request) :
    SlotAfter (r.perform q).2 i g o (storedIn i (r.perform q).1) := by
  cases q with
  | compile source => exact wf.slot_insertCompiled h _
  | compileBytes source => exact wf.slot_insertCompiled h _
  | dispose hs =>
      obtain ⟨o', ho', hkept⟩ := slot_dispose h hs
      exact .kept rfl ho' hkept
  | reconfigure s => exact .kept rfl h id

/-! ## A run -/

/-- The generation of a slot counts the patterns stored in it; as long as there are none, an empty
slot stays empty. -/
theorem WellFormed.slot_run {r : Registry} (wf : WellFormed r) {i g : Nat} {o : Option Compiled}
    (h : HasSlot r i g o) (hg : g < Handle.halfSize) (qs : List Request) :
    ∃ o', HasSlot (r.run qs).2 i ((g + timesStored i (r.run qs).1) % Handle.halfSize) o' ∧
      (timesStored i (r.run qs).1 = 0 → o = none → o' = none) := by
  induction qs generalizing r g o with
  | nil =>
      refine ⟨o, ?_, fun _ => id⟩
      rw [show timesStored i (r.run []).1 = 0 from rfl, Nat.add_zero, Nat.mod_eq_of_lt hg]
      exact h
  | cons q qs ih =>
      rw [timesStored_run_cons]
      rcases wf.slot_perform h q with ⟨hn, h₁, hkept⟩ | ⟨hn, h₁⟩
      · obtain ⟨o', h', hempty⟩ := ih (wf.perform q) h₁ hg
        rw [hn, Nat.zero_add]
        exact ⟨o', h', fun ht ho => hempty ht (hkept ho)⟩
      · obtain ⟨o', h', -⟩ := ih (wf.perform q) h₁ (Nat.mod_lt _ (by decide))
        rw [hn, ← Nat.add_assoc, ← Nat.mod_add_mod]
        exact ⟨o', h', fun ht => by omega⟩

/-- Where a run stores more than `m` patterns in a slot, some state on its way has just taken the
one after the first `m`. -/
theorem WellFormed.slot_run_take {r : Registry} (wf : WellFormed r) {i g : Nat}
    {o : Option Compiled} (h : HasSlot r i g o) (qs : List Request) {m : Nat}
    (hm : m < timesStored i (r.run qs).1) :
    ∃ n p, HasSlot (r.run (qs.take n)).2 i ((g + m + 1) % Handle.halfSize) (some p) := by
  induction qs generalizing r g o m with
  | nil => exact absurd hm (Nat.not_lt_zero m)
  | cons q qs ih =>
      rw [timesStored_run_cons] at hm
      rcases wf.slot_perform h q with ⟨hn, h₁, -⟩ | @⟨p, hn, h₁⟩
      · obtain ⟨n, p, hp⟩ := ih (wf.perform q) h₁ (by omega : m < _)
        exact ⟨n + 1, p, hp⟩
      · cases m with
        | zero => exact ⟨1, p, h₁⟩
        | succ m =>
            obtain ⟨n, p, hp⟩ := ih (wf.perform q) h₁ (by omega : m < _)
            rw [Nat.add_assoc, Nat.mod_add_mod] at hp
            refine ⟨n + 1, p, ?_⟩
            rw [show g + (m + 1) + 1 = g + 1 + (m + 1) by omega]
            exact hp

/-- In a slot just emptied, the token that was there last is refused as long as fewer patterns than
there are generations are stored. -/
theorem WellFormed.refused_iff {r : Registry} (wf : WellFormed r) {h : Handle}
    (hs : HasSlot r h.slot h.generation none) (qs : List Request) :
    (∀ n, (r.run (qs.take n)).2.get? h = none) ↔
      timesStored h.slot (r.run qs).1 < Handle.halfSize := by
  have hg : h.generation < Handle.halfSize := wf.generation_lt _ _ hs
  constructor
  · intro hrefused
    by_contra hmany
    -- The last of the first `halfSize` patterns brings the generation back to where it was.
    obtain ⟨n, p, hp⟩ := wf.slot_run_take hs qs (m := Handle.halfSize - 1)
      (by have := Handle.halfSize_pos; omega)
    rw [show h.generation + (Handle.halfSize - 1) + 1 = h.generation + Handle.halfSize from rfl,
      Nat.add_mod_right, Nat.mod_eq_of_lt hg] at hp
    have hfound := get?_eq_some_iff.mpr hp
    rw [hrefused n] at hfound
    cases hfound
  · intro hfew n
    obtain ⟨o, ho, hempty⟩ := wf.slot_run hs hg (qs.take n)
    have hle := timesStored_run_take_le h.slot r qs n
    generalize timesStored h.slot (r.run (qs.take n)).1 = t at ho hempty hle
    cases t with
    | zero =>
        rw [hempty rfl rfl] at ho
        exact get?_of_empty ho
    | succ t =>
        have hne : (h.generation + (t + 1)) % Handle.halfSize ≠ h.generation := by
          rcases Nat.lt_or_ge (h.generation + (t + 1)) Handle.halfSize with hlt | hge
          · rw [Nat.mod_eq_of_lt hlt]
            omega
          · rw [Nat.mod_eq_sub_mod hge, Nat.mod_eq_of_lt (by omega)]
            omega
        simp [Registry.get?, show (r.run (qs.take n)).2.slots[h.slot]? = _ from ho, hne]

/-- A token just given up was the last of its slot, which is empty now. -/
theorem hasSlot_dispose {r : Registry} {h : Handle} {p : Compiled} (hp : r.get? h = some p)
    {hs : List Handle} (hmem : h ∈ hs) : HasSlot (r.dispose hs).2 h.slot h.generation none := by
  obtain ⟨o, ho, -⟩ := slot_dispose (get?_eq_some_iff.mp hp) hs
  cases o with
  | none => exact ho
  | some p' =>
      have hgone := get?_dispose r hs h
      rw [if_pos hmem, get?_eq_some_iff.mpr ho] at hgone
      cases hgone

/-! ## After giving up -/

theorem get_eq_error_iff {r : Registry} {h : Handle} :
    r.get h = .error (.badHandle h) ↔ r.get? h = none := by
  unfold Registry.get
  cases r.get? h <;> simp

/-- A token answered to some request and later given up for the first time is refused in every
state from then on, exactly if the requests that follow store fewer than `Handle.halfSize` patterns
in its slot. -/
theorem refused_iff_timesStored_lt (s : Settings) (e : Engines)
    (before between after : List Request) (q : Request) (hs : List Handle) (h : Handle)
    (hanswered : (((ofSettings s e).run before).2.perform q).1 = some (.ok h))
    (hkept : ∀ ks, Request.dispose ks ∈ between → h ∉ ks) (hgiven : h ∈ hs) :
    (∀ n, ((ofSettings s e).run (before ++ q :: between ++ .dispose hs :: after.take n)).2.get h =
        .error (.badHandle h)) ↔
      timesStored h.slot (((ofSettings s e).run (before ++ q :: between ++ [.dispose hs])).2.run
        after).1 < Handle.halfSize := by
  have wf := (wellFormed_ofSettings s e).run before
  obtain ⟨p, hp⟩ := wf.get?_of_answered hanswered
  have hlive := (wf.perform q).get?_run hp hkept
  have wf' := ((wf.perform q).run between).perform (.dispose hs)
  simp only [get_eq_error_iff, run_append, run]
  exact wf'.refused_iff (hasSlot_dispose hlive hgiven) after

/-- One pattern more in the slot of a token that was given up. -/
theorem refused_after_one_more :
    ((((ofSettings {}).run []).2.perform (.compile "a")).1 = some (.ok ⟨0, 0⟩) ∧
      (∀ ks, Request.dispose ks ∈ [Request.reconfigure {}] → (⟨0, 0⟩ : Handle) ∉ ks) ∧
      (⟨0, 0⟩ : Handle) ∈ [(⟨0, 0⟩ : Handle), ⟨0, 0⟩]) ∧
    ((∀ n, ((ofSettings {}).run ([] ++ .compile "a" :: [.reconfigure {}] ++
        .dispose [⟨0, 0⟩, ⟨0, 0⟩] :: [Request.compile "b"].take n)).2.get ⟨0, 0⟩ =
          .error (.badHandle ⟨0, 0⟩)) ↔
      timesStored 0 (((ofSettings {}).run ([] ++ .compile "a" :: [.reconfigure {}] ++
        [.dispose [⟨0, 0⟩, ⟨0, 0⟩]])).2.run [.compile "b"]).1 < Handle.halfSize) := by
  have hanswered :
      (((ofSettings {}).run []).2.perform (.compile "a")).1 = some (.ok ⟨0, 0⟩) := by
    decide +kernel
  exact ⟨⟨hanswered, by simp, by simp⟩,
    refused_iff_timesStored_lt {} .builtIn [] [.reconfigure {}] [.compile "b"] (.compile "a")
      [⟨0, 0⟩, ⟨0, 0⟩] ⟨0, 0⟩ hanswered (by simp) (by simp)⟩

/-! ## All generations used up -/

/-- The pattern of the first slot is given up under one generation and stored again under the
next. -/
def renewal (g : Nat) : List Request := [.dispose [⟨0, g⟩], .compile ""]

/-- A store of one slot, which holds a pattern. -/
def single (g : Nat) (p : Compiled) : Registry :=
  { compiler := .ofSettings {}, slots := #[⟨g, some p⟩], free := [], live := 1 }

theorem run_renewal {p : Compiled} (hp : (Compiler.ofSettings {}).compile "" = .ok p) (g : Nat) :
    ((single g p).run (renewal g)).2 = single ((g + 1) % Handle.halfSize) p := by
  have hgone : ((single g p).perform (.dispose [⟨0, g⟩])).2 =
      { single g p with slots := #[⟨g, none⟩], free := [0], live := 0 } := by
    simp [perform, Registry.dispose, Registry.disposeOne, Registry.get?, single]
  simp only [renewal, run, hgone]
  simp [perform, Registry.compile, Registry.insertCompiled, Registry.insert, single, hp]

/-- Renewed once under each of the first `n` generations, the slot comes to the next. -/
theorem run_renewals {p : Compiled} (hp : (Compiler.ofSettings {}).compile "" = .ok p) {n : Nat}
    (hn : n ≤ Handle.halfSize) : ((single 0 p).run ((List.range n).flatMap renewal)).2 =
      single (n % Handle.halfSize) p := by
  induction n with
  | zero => rfl
  | succ n ih =>
      have hlt : n < Handle.halfSize := hn
      rw [List.range_succ, List.flatMap_append, run_append, ih (Nat.le_of_lt hlt),
        Nat.mod_eq_of_lt hlt]
      simpa using run_renewal hp n

theorem renewals_succ (n : Nat) : (List.range (n + 1)).flatMap renewal =
    .dispose [⟨0, 0⟩] :: .compile "" :: (List.range' 1 n).flatMap renewal := by
  rw [List.range_eq_range', List.range'_succ, List.flatMap_cons]
  rfl

theorem compile_first {p : Compiled} (hp : (Compiler.ofSettings {}).compile "" = .ok p) :
    ((ofSettings {}).perform (.compile "")).1 = some (.ok ⟨0, 0⟩) ∧
      ((ofSettings {}).perform (.compile "")).2 = single 0 p := by
  have hcompiled : (ofSettings {}).compile "" = (ofSettings {}).insertCompiled (.ok p) := by
    rw [← hp]
    rfl
  obtain ⟨hv, hs⟩ := insert_of_room (r := ofSettings {}) rfl (by decide : 0 < capacity) p
  rw [perform, hcompiled]
  exact ⟨congrArg some hv, hs⟩

/-- With every generation used up, a store of one slot is as it was at first. -/
theorem run_all_renewals {p : Compiled} (hp : (Compiler.ofSettings {}).compile "" = .ok p) :
    ((ofSettings {}).run (.compile "" :: .dispose [⟨0, 0⟩] :: .compile "" ::
      (List.range' 1 (Handle.halfSize - 1)).flatMap renewal)).2 = single 0 p := by
  have hend := run_renewals hp (Nat.le_refl Handle.halfSize)
  rw [Nat.mod_self] at hend
  rw [← renewals_succ, Handle.halfSize_sub_one_add_one, run_cons, (compile_first hp).2]
  exact hend

/-- A token given up stands for a pattern again when its slot has been used under every other
generation and comes back to the first. -/
theorem resolves_behind_renewals :
    ((ofSettings {}).perform (.compile "")).1 = some (.ok ⟨0, 0⟩) ∧
      ∃ p, ((ofSettings {}).run (.compile "" :: .dispose [⟨0, 0⟩] :: .compile "" ::
        (List.range' 1 (Handle.halfSize - 1)).flatMap renewal)).2.get ⟨0, 0⟩ = .ok p := by
  have hok : ((Compiler.ofSettings {}).compile "").toOption.isSome = true := by decide +kernel
  obtain ⟨p, hp⟩ : ∃ p, (Compiler.ofSettings {}).compile "" = .ok p := by
    cases hc : (Compiler.ofSettings {}).compile "" with
    | ok p => exact ⟨p, rfl⟩
    | error e =>
        rw [hc] at hok
        cases hok
  have hget : (single 0 p).get ⟨0, 0⟩ = .ok p := rfl
  exact ⟨(compile_first hp).1, p, by rw [run_all_renewals hp, hget]⟩

end Registry

end Leftmost
