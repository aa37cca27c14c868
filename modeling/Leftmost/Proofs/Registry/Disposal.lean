import Leftmost.Proofs.Registry.Issued

/-!
# Leftmost.Proofs.Registry.Disposal

What giving up a list of tokens leaves behind, and how its slots are used again.  A token counts
where it occurs first, if it stands for a pattern then; its slot goes to the front of the free list,
and storing takes slots from that front:

* `WellFormed.frees_dispose` — the slots of these tokens are emptied and freed, in order, and
  nothing else is touched;
* `events_dispose` — what is told about it;
* `takes_perform` — how a request that gives nothing up goes with the free list;
* `free_run`, `WellFormed.issued_run` — a run of such requests takes slots off the free list from
  the front, each under its next generation;
* `disposes_run` — what becomes of a list given up, in any state a store comes to.
-/

namespace Leftmost

namespace Registry

/-! ## Giving up a list -/

/-- The tokens of a list that stand for patterns, each where it occurs first. -/
def givenUp (r : Registry) (hs : List Handle) : List Handle := (hs.filter r.contains).eraseDups

theorem contains_iff {r : Registry} {h : Handle} :
    r.contains h = true ↔ ∃ p, r.get? h = some p :=
  Option.isSome_iff_exists

theorem mem_givenUp {r : Registry} {hs : List Handle} {h : Handle} :
    h ∈ r.givenUp hs ↔ h ∈ hs ∧ ∃ p, r.get? h = some p := by
  rw [givenUp, List.mem_eraseDups, List.mem_filter, contains_iff]

theorem givenUp_of_none {r : Registry} {h : Handle} (hp : r.get? h = none) (hs : List Handle) :
    r.givenUp (h :: hs) = r.givenUp hs := by
  have hnot : ¬r.contains h = true := by simp [Registry.contains, hp]
  rw [givenUp, List.filter_cons_of_neg hnot, givenUp]

/-- Behind a token that stands for a pattern, those count that still do without it. -/
theorem givenUp_of_some {r : Registry} {h : Handle} {p : Compiled} (hp : r.get? h = some p)
    (hs : List Handle) : r.givenUp (h :: hs) = h :: (r.vacate h).givenUp hs := by
  have hrest (k : Handle) : (!(k == h) && r.contains k) = (r.vacate h).contains k := by
    rw [Registry.contains, Registry.contains, ← disposeOne_of_some hp, get?_disposeOne]
    by_cases hk : k = h <;> simp [hk]
  rw [givenUp, List.filter_cons_of_pos (contains_iff.mpr ⟨p, hp⟩), List.eraseDups_cons,
    List.filter_filter, givenUp]
  simp only [hrest]

/-- A store with the slots of tokens given up. -/
structure Frees (r : Registry) (gone : List Handle) (s : Registry) : Prop where
  /-- No slot is given up twice. -/
  slot_nodup : (gone.map (·.slot)).Nodup
  /-- The slots come to the front of the free list one after the other. -/
  free : s.free = (gone.map (·.slot)).reverse ++ r.free
  size : s.size + gone.length = r.size
  emptied : ∀ h ∈ gone, s.slots[h.slot]? = some ⟨h.generation, none⟩
  others : ∀ i, i ∉ gone.map (·.slot) → s.slots[i]? = r.slots[i]?
  compiler : s.compiler = r.compiler

theorem Frees.nil (r : Registry) : Frees r [] r where
  slot_nodup := .nil
  free := rfl
  size := rfl
  emptied _ hmem := absurd hmem List.not_mem_nil
  others _ _ := rfl
  compiler := rfl

/-- One token more, given up before all others. -/
theorem Frees.cons {r s : Registry} {h : Handle} {p : Compiled} {gone : List Handle}
    (wf : WellFormed r) (hp : r.get? h = some p) (hnew : h.slot ∉ gone.map (·.slot))
    (frees : Frees (r.vacate h) gone s) : Frees r (h :: gone) s where
  slot_nodup := List.nodup_cons.mpr ⟨hnew, frees.slot_nodup⟩
  free := by simp [frees.free, vacate]
  size := by
    have hrest : s.size + gone.length = r.live - 1 := frees.size
    have hpos : 0 < r.size := wf.live_pos hp
    have hsize : r.size = r.live := rfl
    rw [List.length_cons]
    omega
  emptied k hk := by
    rcases List.mem_cons.mp hk with rfl | hk
    · rw [frees.others k.slot hnew, getElem?_slots_vacate (lt_size_of_get? hp), if_pos rfl]
    · exact frees.emptied k hk
  others i hi := by
    obtain ⟨hne, hrest⟩ := not_or.mp (mt List.mem_cons.mpr hi)
    rw [frees.others i hrest, getElem?_slots_vacate (lt_size_of_get? hp), if_neg hne]
  compiler := frees.compiler

/-- The slots of the tokens that stand for patterns are given up, and no others. -/
theorem WellFormed.frees_dispose {r : Registry} (wf : WellFormed r) (hs : List Handle) :
    Frees r (r.givenUp hs) (r.dispose hs).2 := by
  induction hs generalizing r with
  | nil => exact .nil r
  | cons h hs ih =>
      rw [dispose_cons]
      cases hp : r.get? h with
      | none =>
          rw [disposeOne_of_none hp, givenUp_of_none hp]
          exact ih wf
      | some p =>
          rw [disposeOne_of_some hp, givenUp_of_some hp]
          refine (ih (wf.vacate hp)).cons wf hp fun hmem => ?_
          -- The slot is empty by now, so that no later token of it stands for anything.
          obtain ⟨k, hk, hslot⟩ := List.mem_map.mp hmem
          obtain ⟨q, hq⟩ := (mem_givenUp.mp hk).2
          rw [get?_of_empty (by rw [getElem?_slots_vacate (lt_size_of_get? hp), if_pos hslot])] at hq
          cases hq

theorem events_disposeOne_of_none {r : Registry} {h : Handle} (hp : r.get? h = none) :
    (r.disposeOne h).1.events = [] := by
  simp [Registry.disposeOne, hp]

theorem events_disposeOne_of_some {r : Registry} {h : Handle} {p : Compiled}
    (hp : r.get? h = some p) : (r.disposeOne h).1.events = [.disposed h] := by
  simp [Registry.disposeOne, hp]

/-- Every token given up is told about, in order. -/
theorem events_dispose (r : Registry) (hs : List Handle) :
    (r.dispose hs).1.events = (r.givenUp hs).map .disposed := by
  induction hs generalizing r with
  | nil => rfl
  | cons h hs ih =>
      have hsplit : (r.dispose (h :: hs)).1.events =
          (r.disposeOne h).1.events ++ ((r.disposeOne h).2.dispose hs).1.events := rfl
      rw [hsplit, ih]
      cases hp : r.get? h with
      | none =>
          rw [events_disposeOne_of_none hp, disposeOne_of_none hp, givenUp_of_none hp,
            List.nil_append]
      | some p =>
          rw [events_disposeOne_of_some hp, disposeOne_of_some hp, givenUp_of_some hp,
            List.map_cons, List.singleton_append]

/-! ## Using slots again -/

/-- The token under which a slot given up is used next. -/
def nextToken (r : Registry) (i : Nat) : Handle := ⟨i, r.nextGeneration i⟩

theorem nextToken_reuse {r : Registry} {slot i : Nat} (hlt : slot < r.slots.size)
    (free : List Nat) (p : Compiled) (hi : i ≠ slot) :
    (r.reuse slot free p).nextToken i = r.nextToken i := by
  rw [nextToken, nextGeneration, getElem?_slots_reuse hlt, if_neg hi]
  rfl

/-- How a request goes with the free list. -/
inductive Takes (r : Registry) (a : Reply) (s : Registry) : Prop where
  /-- Nothing is stored. -/
  | idle : issued [a] = [] → s.free = r.free → s.slots = r.slots → Takes r a s
  /-- The slot at the front is used. -/
  | front {slot : Nat} {free : List Nat} {p : Compiled} : r.free = slot :: free →
      issued [a] = [r.nextToken slot] → s = r.reuse slot free p → Takes r a s
  /-- There is no slot to be used again. -/
  | new : r.free = [] → s.free = [] → Takes r a s

theorem takes_insertCompiled (r : Registry) (compiled : Except ScanError Compiled) :
    Takes r (some (r.insertCompiled compiled).1.value) (r.insertCompiled compiled).2 := by
  cases compiled with
  | error e => exact .idle rfl rfl rfl
  | ok p =>
      have hv : (r.insertCompiled (.ok p)).1.value = (r.insert p).1.value := rfl
      have hs : (r.insertCompiled (.ok p)).2 = (r.insert p).2 := rfl
      rw [hv, hs]
      cases hf : r.free with
      | nil =>
          refine .new hf ?_
          by_cases hroom : r.slots.size < capacity
          · rw [(insert_of_room hf hroom p).2]
            exact hf
          · rw [(insert_of_full hf (Nat.not_lt.mp hroom) p).2]
            exact hf
      | cons slot free =>
          obtain ⟨hv, hs⟩ := insert_of_free hf p
          exact .front hf (by rw [hv]; rfl) hs

/-- A request that gives nothing up leaves the free list, or takes the slot at its front. -/
theorem takes_perform (r : Registry) {q : Request} (hq : ∀ ks, q ≠ .dispose ks) :
    Takes r (r.perform q).1 (r.perform q).2 := by
  cases q with
  | compile source => exact takes_insertCompiled r _
  | compileBytes source => exact takes_insertCompiled r _
  | dispose ks => exact absurd rfl (hq ks)
  | reconfigure s => exact .idle rfl rfl rfl

theorem issued_run_cons (r : Registry) (q : Request) (qs : List Request) :
    issued (r.run (q :: qs)).1 = issued [(r.perform q).1] ++ issued ((r.perform q).2.run qs).1 :=
  issued_cons ..

/-- Requests that give nothing up take slots off the free list from the front, one for each pattern
stored, as long as there are any. -/
theorem free_run (r : Registry) {qs : List Request} (hqs : ∀ ks, Request.dispose ks ∉ qs) :
    (r.run qs).2.free = r.free.drop (issued (r.run qs).1).length := by
  induction qs generalizing r with
  | nil => rfl
  | cons q qs ih =>
      have hq (ks : List Handle) : q ≠ .dispose ks := fun he => hqs ks (he ▸ List.mem_cons_self)
      rw [run_cons, ih _ fun ks hks => hqs ks (List.mem_cons_of_mem q hks), issued_run_cons,
        List.length_append]
      rcases takes_perform r hq with ⟨hissued, hfree, -⟩ | ⟨hf, hissued, hs⟩ | ⟨hf, hfree⟩
      · rw [hissued, hfree, List.length_nil, Nat.zero_add]
      · rw [hissued, hf, List.length_singleton, Nat.add_comm 1, List.drop_succ_cons, hs]
        rfl
      · rw [hf, hfree, List.drop_nil, List.drop_nil]

/-- The patterns they store come under the next tokens of these slots, as far as both reach. -/
theorem WellFormed.issued_run {r : Registry} (wf : WellFormed r) {qs : List Request}
    (hqs : ∀ ks, Request.dispose ks ∉ qs) :
    (issued (r.run qs).1).take r.free.length =
      (r.free.map r.nextToken).take (issued (r.run qs).1).length := by
  induction qs generalizing r with
  | nil => exact List.take_nil
  | cons q qs ih =>
      have hq (ks : List Handle) : q ≠ .dispose ks := fun he => hqs ks (he ▸ List.mem_cons_self)
      have hrest := ih (wf.perform q) fun ks hks => hqs ks (List.mem_cons_of_mem q hks)
      rw [issued_run_cons]
      rcases takes_perform r hq with
        ⟨hissued, hfree, hslots⟩ | @⟨slot, free, p, hf, hissued, hs⟩ | ⟨hf, -⟩
      · have hnext : (r.perform q).2.nextToken = r.nextToken := by
          funext i
          rw [nextToken, nextGeneration, hslots]
          rfl
        rwa [hissued, List.nil_append, ← hfree, ← hnext]
      · have hlt : slot < r.slots.size := wf.lt_size_of_mem_free (by simp [hf])
        have hnotin : slot ∉ free := (List.nodup_cons.mp (hf ▸ wf.free_nodup)).1
        have hnext : free.map (r.perform q).2.nextToken = free.map r.nextToken := by
          refine List.map_congr_left fun i hi => ?_
          rw [hs]
          exact nextToken_reuse hlt free p fun he => hnotin (he ▸ hi)
        have hfree : (r.perform q).2.free = free := by
          rw [hs]
          rfl
        rw [hfree, hnext] at hrest
        rw [hissued, hf, List.map_cons, List.length_cons, List.singleton_append, List.length_cons,
          List.take_succ_cons, List.take_succ_cons, hrest]
      · rw [hf, List.length_nil, List.take_zero, List.map_nil, List.take_nil]

/-- As long as a slot is free, an accepted pattern is stored. -/
theorem exists_answered_of_free {r : Registry} (hfree : r.free ≠ []) {q : Request} {p : Compiled}
    (hq : q.compiled? r.compiler = some (.ok p)) : ∃ h, (r.perform q).1 = some (.ok h) := by
  obtain ⟨slot, free, hf⟩ := List.exists_cons_of_ne_nil hfree
  have hv := (insert_of_free hf p).1
  have hstored : (r.insertCompiled (.ok p)).1.value = .ok (r.nextToken slot) := hv
  cases q with
  | compile source =>
      have hok : r.compiler.compile source = .ok p := Option.some.inj hq
      exact ⟨_, by rw [perform, Registry.compile, hok, hstored]⟩
  | compileBytes source =>
      have hok : r.compiler.compileBytes source = .ok p := Option.some.inj hq
      exact ⟨_, by rw [perform, Registry.compileBytes, hok, hstored]⟩
  | dispose ks => cases hq
  | reconfigure s => cases hq

/-! ## Both -/

/-- What becomes of a list of tokens that is given up. -/
structure Disposes (r : Registry) (hs : List Handle) : Prop where
  frees : Frees r (r.givenUp hs) (r.dispose hs).2
  /-- Each of them is told about, and nothing else. -/
  events : (r.dispose hs).1.events = (r.givenUp hs).map .disposed
  lines : (r.dispose hs).1.events.map Event.render =
    (r.givenUp hs).map fun h => "TRACE Disposed pattern " ++ h.render
  /-- The patterns stored next come into these slots, the last one first, under the generation that
  follows, before any other slot is used. -/
  reuses : ∀ qs, (∀ ks, Request.dispose ks ∉ qs) →
    (issued ((r.dispose hs).2.run qs).1).take (r.givenUp hs).length =
      ((r.givenUp hs).reverse.map fun h => ⟨h.slot, (h.generation + 1) % 2 ^ 32⟩).take
        (issued ((r.dispose hs).2.run qs).1).length
  /-- None of these is turned away while one of the slots is left. -/
  accepts : ∀ qs, (∀ ks, Request.dispose ks ∉ qs) →
    (issued ((r.dispose hs).2.run qs).1).length < (r.givenUp hs).length →
    ∀ q p, q.compiled? ((r.dispose hs).2.run qs).2.compiler = some (.ok p) →
      ∃ h, (((r.dispose hs).2.run qs).2.perform q).1 = some (.ok h)

theorem WellFormed.disposes {r : Registry} (wf : WellFormed r) (hs : List Handle) :
    Disposes r hs := by
  have frees := wf.frees_dispose hs
  have hnext : ((r.givenUp hs).map (·.slot)).reverse.map (r.dispose hs).2.nextToken =
      (r.givenUp hs).reverse.map fun h => ⟨h.slot, (h.generation + 1) % 2 ^ 32⟩ := by
    rw [← List.map_reverse, List.map_map]
    refine List.map_congr_left fun h hmem => ?_
    have hempty := frees.emptied h (List.mem_reverse.mp hmem)
    simp [nextToken, nextGeneration, hempty, Handle.halfSize_eq]
  refine {
    frees
    events := events_dispose r hs
    lines := ?_
    reuses := fun qs hqs => ?_
    accepts := fun qs hqs hfew q p hq => exists_answered_of_free ?_ hq }
  · rw [events_dispose, List.map_map]
    rfl
  · have hlength : (r.givenUp hs).length ≤ (r.dispose hs).2.free.length := by
      simp [frees.free]
    have htake := congrArg (List.take (r.givenUp hs).length) ((wf.dispose hs).issued_run hqs)
    rw [List.take_take, Nat.min_eq_left hlength, List.take_take, Nat.min_comm, ← List.take_take,
      frees.free, List.map_append, hnext, List.take_left' (by simp)] at htake
    exact htake
  · rw [free_run _ hqs, frees.free, ne_eq, List.drop_eq_nil_iff]
    simp only [List.length_append, List.length_reverse, List.length_map]
    omega

/-- In any state that a store comes to, giving up a list empties the slots of the tokens that stand
for patterns, each once and in the order in which they occur first; the patterns stored next come
into these slots the other way round. -/
theorem disposes_run (s : Settings) (e : Engines) (qs : List Request) (hs : List Handle) :
    Disposes ((ofSettings s e).run qs).2 hs :=
  ((wellFormed_ofSettings s e).run qs).disposes hs

/-- A token that occurs twice counts once, and one that stands for nothing does not count. -/
example : ((ofSettings {}).run [.compile "", .compile ""]).2.givenUp
    [⟨1, 0⟩, ⟨0, 7⟩, ⟨0, 0⟩, ⟨1, 0⟩] = [⟨1, 0⟩, ⟨0, 0⟩] := by decide +kernel

end Registry

end Leftmost
