import Leftmost.Proofs.Handle
import Leftmost.Proofs.Registry.Run
import Mathlib.Algebra.Group.Nat.Defs
import Mathlib.Data.Set.Operations

/-!
# Leftmost.Proofs.Registry.Issued

The tokens that a store hands out over a whole run.  A slot that is used again hands out a token of
its next generation, and generations start again from zero only behind the greatest value of a half;
it takes as many tokens as a half has values to come there:

* `Accounts` — how the tokens handed out so far lie behind the generations of the slots;
* `Accounts.store` — one token more;
* `Accounts.run` — a run of no more than `Handle.halfSize` tokens keeps this, and therefore hands
  out no token twice;
* `packs_handedOut` — tokens of runs of any length have words of their own.
-/

namespace Leftmost

namespace Registry

/-- The tokens among answers. -/
def issued (replies : List Reply) : List Handle :=
  replies.filterMap fun a => a.bind Except.toOption

theorem issued_cons (a : Reply) (replies : List Reply) :
    issued (a :: replies) = issued [a] ++ issued replies :=
  List.filterMap_append (l := [a]) ..

theorem issued_singleton (a : Reply) : issued [a] = (a.bind Except.toOption).toList := by
  rw [issued, List.filterMap_cons]
  cases a.bind Except.toOption <;> rfl

/-- The generation of a slot, if there is one. -/
def generation? (r : Registry) (i : Nat) : Option Nat := r.slots[i]?.map (·.generation)

theorem generation?_reuse {r : Registry} {slot : Nat} (hlt : slot < r.slots.size) (free : List Nat)
    (p : Compiled) (i : Nat) : (r.reuse slot free p).generation? i =
      if i = slot then some (r.nextGeneration slot) else r.generation? i := by
  rw [generation?, getElem?_slots_reuse hlt]
  split <;> rfl

theorem generation?_grow (r : Registry) (p : Compiled) (i : Nat) :
    (r.grow p).generation? i = if i = r.slots.size then some 0 else r.generation? i := by
  rw [generation?, getElem?_slots_grow]
  split <;> rfl

theorem generation?_disposeOne (r : Registry) (h : Handle) (i : Nat) :
    (r.disposeOne h).2.generation? i = r.generation? i := by
  cases hp : r.get? h with
  | none => rw [disposeOne_of_none hp]
  | some p =>
      rw [disposeOne_of_some hp, generation?, getElem?_slots_vacate (lt_size_of_get? hp)]
      split
      · next hi => rw [hi, generation?, get?_eq_some_iff.mp hp]; rfl
      · rfl

/-- Giving up tokens leaves the generations. -/
theorem generation?_dispose (r : Registry) (hs : List Handle) (i : Nat) :
    (r.dispose hs).2.generation? i = r.generation? i := by
  induction hs generalizing r with
  | nil => rfl
  | cons h hs ih => rw [dispose_cons, ih, generation?_disposeOne]

/-- How tokens handed out lie behind the generations of the slots. -/
structure Accounts (r : Registry) (hs : List Handle) : Prop where
  nodup : hs.Nodup
  /-- No token is ahead of its slot. -/
  not_ahead : ∀ h ∈ hs, ∃ g, r.generation? h.slot = some g ∧ h.generation ≤ g
  /-- A slot has come to no more generations than there are tokens. -/
  generation_lt : ∀ i g, r.generation? i = some g → g < hs.length

theorem accounts_empty (s : Settings) (e : Engines) : Accounts (ofSettings s e) [] where
  nodup := .nil
  not_ahead h hmem := absurd hmem List.not_mem_nil
  generation_lt i g hg := by simp [generation?, ofSettings] at hg

/-- The generations are all that counts. -/
theorem Accounts.congr {r s : Registry} {hs : List Handle} (acc : Accounts r hs)
    (h : ∀ i, s.generation? i = r.generation? i) : Accounts s hs where
  nodup := acc.nodup
  not_ahead k hk := by rw [h]; exact acc.not_ahead k hk
  generation_lt i g := by rw [h]; exact acc.generation_lt i g

/-- A token that its slot comes to, ahead of where it was, is a new one. -/
theorem Accounts.store {r s : Registry} {hs : List Handle} (acc : Accounts r hs) {h : Handle}
    (hslots : ∀ i, s.generation? i = if i = h.slot then some h.generation else r.generation? i)
    (hahead : ∀ g, r.generation? h.slot = some g → g < h.generation)
    (hle : h.generation ≤ hs.length) : Accounts s (hs ++ [h]) where
  nodup := by
    have hnew : h ∉ hs := fun hmem => by
      obtain ⟨g, hg, hgen⟩ := acc.not_ahead h hmem
      have := hahead g hg
      omega
    exact List.nodup_append.mpr ⟨acc.nodup, List.nodup_cons.mpr ⟨by simp, .nil⟩,
      fun k hk l hl heq => hnew (by rwa [← List.mem_singleton.mp hl, ← heq])⟩
  not_ahead k hk := by
    rw [hslots]
    by_cases hslot : k.slot = h.slot
    · refine ⟨h.generation, if_pos hslot, ?_⟩
      rcases List.mem_append.mp hk with hk | hk
      · obtain ⟨g, hg, hgen⟩ := acc.not_ahead k hk
        exact Nat.le_trans hgen (Nat.le_of_lt (hahead g (hslot ▸ hg)))
      · exact Nat.le_of_eq (by rw [List.mem_singleton.mp hk])
    · rw [if_neg hslot]
      rcases List.mem_append.mp hk with hk | hk
      · exact acc.not_ahead k hk
      · exact absurd (by rw [List.mem_singleton.mp hk]) hslot
  generation_lt i g hg := by
    rw [List.length_append, List.length_singleton]
    rw [hslots] at hg
    split at hg
    · have : h.generation = g := Option.some.inj hg
      omega
    · have := acc.generation_lt i g hg
      omega

/-- A slot of a store and its generation have room in a packed token. -/
theorem WellFormed.fits {r : Registry} (wf : WellFormed r) {h : Handle} {s : Slot}
    (hs : r.slots[h.slot]? = some s) (hle : h.generation ≤ s.generation) : h.Fits where
  slot_lt := by
    have hlt := (Array.getElem?_eq_some_iff.mp hs).1
    have hcap := wf.slots_le
    have hhalf : capacity + 1 = Handle.halfSize := Handle.halfSize_sub_one_add_one
    omega
  generation_lt := Nat.lt_of_le_of_lt hle (wf.generation_lt h.slot s hs)

theorem WellFormed.fits_of_get? {r : Registry} (wf : WellFormed r) {h : Handle} {p : Compiled}
    (hp : r.get? h = some p) : h.Fits :=
  wf.fits (get?_eq_some_iff.mp hp) (Nat.le_refl _)

theorem Accounts.fits {r : Registry} {hs : List Handle} (acc : Accounts r hs)
    (wf : WellFormed r) {h : Handle} (hmem : h ∈ hs) : h.Fits := by
  obtain ⟨g, hg, hle⟩ := acc.not_ahead h hmem
  obtain ⟨s, hs, rfl⟩ := Option.map_eq_some_iff.mp hg
  exact wf.fits hs hle

/-! ## One request -/

theorem Accounts.insert {r : Registry} {hs : List Handle} (wf : WellFormed r)
    (acc : Accounts r hs) (p : Compiled)
    (hfew : hs.length + (issued [some (r.insert p).1.value]).length ≤ Handle.halfSize) :
    Accounts (r.insert p).2 (hs ++ issued [some (r.insert p).1.value]) := by
  cases hf : r.free with
  | nil =>
      by_cases hroom : r.slots.size < capacity
      · obtain ⟨hv, hs'⟩ := insert_of_room hf hroom p
        rw [hv, hs']
        refine acc.store (generation?_grow r p) (fun g hg => ?_) (Nat.zero_le _)
        simp [generation?] at hg
      · obtain ⟨hv, hs'⟩ := insert_of_full hf (Nat.not_lt.mp hroom) p
        rw [hv, hs', show issued [some (.error _)] = [] from rfl, List.append_nil]
        exact acc
  | cons slot free =>
      obtain ⟨hv, hs'⟩ := insert_of_free hf p
      rw [hv] at hfew
      rw [hv, hs']
      obtain ⟨g, hg⟩ := (wf.mem_free slot).mp (by simp [hf])
      have hslot : r.generation? slot = some g := by rw [generation?, hg]; rfl
      have hlt := acc.generation_lt slot g hslot
      -- There are too few tokens yet for the slot to have come to the last generation.
      have hnext : r.nextGeneration slot = g + 1 := by
        have hroom : hs.length + 1 ≤ Handle.halfSize := hfew
        rw [nextGeneration, hg]
        exact Nat.mod_eq_of_lt (by omega : g + 1 < Handle.halfSize)
      refine acc.store (generation?_reuse (wf.lt_size_of_mem_free (by simp [hf])) free p)
        (fun g' hg' => ?_) ?_
      · obtain rfl : g = g' := Option.some.inj (hslot.symm.trans hg')
        rw [hnext]
        exact Nat.lt_succ_self g
      · rw [hnext]
        exact hlt

theorem Accounts.insertCompiled {r : Registry} {hs : List Handle} (wf : WellFormed r)
    (acc : Accounts r hs) (compiled : Except ScanError Compiled)
    (hfew : hs.length + (issued [some (r.insertCompiled compiled).1.value]).length ≤
      Handle.halfSize) :
    Accounts (r.insertCompiled compiled).2
      (hs ++ issued [some (r.insertCompiled compiled).1.value]) := by
  cases compiled with
  | error e =>
      rw [show issued [some (r.insertCompiled (.error e)).1.value] = [] from rfl, List.append_nil]
      exact acc
  | ok p => exact acc.insert wf p hfew

theorem Accounts.perform {r : Registry} {hs : List Handle} (wf : WellFormed r)
    (acc : Accounts r hs) (q : Request)
    (hfew : hs.length + (issued [(r.perform q).1]).length ≤ Handle.halfSize) :
    Accounts (r.perform q).2 (hs ++ issued [(r.perform q).1]) := by
  cases q with
  | compile source => exact acc.insertCompiled wf _ hfew
  | compileBytes source => exact acc.insertCompiled wf _ hfew
  | dispose ks =>
      rw [show issued [(r.perform (.dispose ks)).1] = [] from rfl, List.append_nil]
      exact acc.congr (generation?_dispose r ks)
  | reconfigure s =>
      rw [show issued [(r.perform (.reconfigure s)).1] = [] from rfl, List.append_nil]
      exact acc.congr fun _ => rfl

/-! ## A run -/

/-- A run that brings the tokens to no more than `Handle.halfSize` hands out none twice. -/
theorem Accounts.run {r : Registry} {hs : List Handle} (wf : WellFormed r) (acc : Accounts r hs)
    (qs : List Request) (hfew : hs.length + (issued (r.run qs).1).length ≤ Handle.halfSize) :
    Accounts (r.run qs).2 (hs ++ issued (r.run qs).1) := by
  induction qs generalizing r hs with
  | nil =>
      rw [show issued (r.run []).1 = [] from rfl, List.append_nil]
      exact acc
  | cons q qs ih =>
      have hsplit : issued (r.run (q :: qs)).1 =
          issued [(r.perform q).1] ++ issued ((r.perform q).2.run qs).1 := issued_cons ..
      rw [hsplit, List.length_append, ← Nat.add_assoc] at hfew
      rw [run_cons, hsplit, ← List.append_assoc]
      refine ih (wf.perform q) (acc.perform wf q (by omega)) ?_
      rwa [List.length_append]

/-! ## Words -/

/-- A token answered has room in a word, however many were answered before. -/
theorem WellFormed.fits_of_mem_issued {r : Registry} (wf : WellFormed r) {qs : List Request}
    {h : Handle} (hmem : h ∈ issued (r.run qs).1) : h.Fits := by
  induction qs generalizing r with
  | nil => cases hmem
  | cons q qs ih =>
      rw [Registry.run, issued_cons, List.mem_append, issued_singleton, Option.mem_toList] at hmem
      rcases hmem with hfirst | hlater
      · obtain ⟨v, hv, hok⟩ := Option.bind_eq_some_iff.mp hfirst
        obtain ⟨p, hp⟩ := wf.get?_of_answered (hv.trans (by rw [eq_ok_of_toOption hok]))
        exact (wf.perform q).fits_of_get? hp
      · exact ih (wf.perform q) hlater

/-- The tokens that stores hand out, in runs of any length. -/
def handedOut : Set Handle := {h | ∃ s e qs, h ∈ issued ((ofSettings s e).run qs).1}

/-- Tokens and words stand for each other. -/
structure Packs (tokens : Set Handle) : Prop where
  slot_lt : ∀ h ∈ tokens, h.slot < 2 ^ 32 - 1
  generation_le : ∀ h ∈ tokens, h.generation ≤ 2 ^ 32 - 1
  toRaw_ne_zero : ∀ h ∈ tokens, h.toRaw ≠ 0
  /-- A token is read back from its word. -/
  ofRaw?_toRaw : ∀ h ∈ tokens, Handle.ofRaw? h.toRaw = some h
  /-- A word is no token exactly if its low half is zero, -/
  ofRaw?_eq_none_iff : ∀ raw : UInt64, Handle.ofRaw? raw = none ↔ raw.toNat % 2 ^ 32 = 0
  /-- and any other is the word of the token that it is read as. -/
  toRaw_of_ofRaw? : ∀ raw h, Handle.ofRaw? raw = some h → h.toRaw = raw
  injOn : Set.InjOn Handle.toRaw tokens

/-- Slots and generations of the tokens handed out never meet in a word, so that it is read back as
its token and no two tokens have the same. -/
theorem packs_handedOut : Packs handedOut := by
  have hfits : ∀ h ∈ handedOut, h.Fits := by
    rintro h ⟨s, e, qs, hmem⟩
    exact (wellFormed_ofSettings s e).fits_of_mem_issued hmem
  refine {
    slot_lt := fun h hh => Nat.lt_sub_of_add_lt (hfits h hh).slot_lt
    generation_le := fun h hh => Nat.le_sub_one_of_lt (hfits h hh).generation_lt
    toRaw_ne_zero := fun h hh => Handle.toRaw_ne_zero (hfits h hh)
    ofRaw?_toRaw := fun h hh => Handle.ofRaw?_toRaw (hfits h hh)
    ofRaw?_eq_none_iff := fun raw => ?_
    toRaw_of_ofRaw? := fun raw h => Handle.toRaw_of_ofRaw?
    injOn := fun h hh k hk heq => (Handle.toRaw_inj (hfits h hh) (hfits k hk)).mp heq }
  change Handle.ofRaw? raw = none ↔ Handle.IsNull raw
  rw [Handle.ofRaw?_eq]
  split <;> simp_all

/-- A slot that is used again hands out a token with a generation. -/
example : ⟨0, 1⟩ ∈ issued ((ofSettings {}).run
    [.compile "", .dispose [⟨0, 0⟩], .compile ""]).1 := by decide +kernel

end Registry

end Leftmost
