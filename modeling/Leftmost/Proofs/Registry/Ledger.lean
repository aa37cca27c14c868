import Leftmost.Proofs.Registry.Run
import Mathlib.Data.Finmap

/-!
# Leftmost.Proofs.Registry.Ledger

A store of patterns answers like a finite map from tokens to patterns. A `Ledger` is such a map
with the settings in force; `Ledger.Step` says what a request may do to it and what is answered,
and leaves open which unused token a new pattern gets.

* `Represents` — the relation between a store and the ledger it stands for;
* `Represents.perform` — one request keeps it, by a step that the ledger allows;
* `run_simulates` — so does any run from an empty store, and at its end every look-up, the number
  of patterns included, is answered from the map.
-/

namespace Leftmost

/-- The settings in force and the patterns that tokens stand for. -/
structure Ledger where
  settings : Settings
  patterns : Finmap fun _ : Handle => Compiled

namespace Ledger

/-- A ledger without patterns. -/
def empty (s : Settings) : Ledger := ⟨s, ∅⟩

/-- Number of patterns. -/
def size (l : Ledger) : Nat := l.patterns.keys.card

/-- Takes tokens away one after the other. -/
def eraseAll (l : Ledger) (hs : List Handle) : Ledger :=
  { l with patterns := hs.foldl (fun m h => m.erase h) l.patterns }

/-- In whatever order and however often tokens occur, they and no others are gone. -/
theorem lookup_eraseAll (l : Ledger) (hs : List Handle) (k : Handle) :
    (l.eraseAll hs).patterns.lookup k = if k ∈ hs then none else l.patterns.lookup k := by
  induction hs generalizing l with
  | nil => simp [eraseAll]
  | cons h hs ih =>
      have hgo := ih { l with patterns := l.patterns.erase h }
      rw [show l.eraseAll (h :: hs) = eraseAll { l with patterns := l.patterns.erase h } hs from rfl,
        hgo]
      by_cases hk : k = h
      · subst hk
        simp [Finmap.lookup_erase]
      · simp [hk, Finmap.lookup_erase_ne hk]

/-- What a request may do to a ledger, and what is answered. -/
inductive Step (e : Engines) (l : Ledger) : Request → Reply → Ledger → Prop where
  /-- An accepted pattern gets a token that stands for nothing. -/
  | stored {q : Request} {p : Compiled} {h : Handle} :
      q.compiled? (.ofSettings l.settings e) = some (.ok p) → l.size < Registry.capacity →
      h ∉ l.patterns →
      Step e l q (some (.ok h)) { l with patterns := l.patterns.insert h p }
  /-- An accepted pattern for which there is no room changes nothing. -/
  | full {q : Request} {p : Compiled} :
      q.compiled? (.ofSettings l.settings e) = some (.ok p) → Registry.capacity ≤ l.size →
      Step e l q (some (.error (.badArgument
        s!"too many live patterns (limit {Registry.capacity})"))) l
  /-- A refused pattern changes nothing. -/
  | refused {q : Request} {why : ScanError} :
      q.compiled? (.ofSettings l.settings e) = some (.error why) →
      Step e l q (some (.error why)) l
  /-- The tokens given up, and no others, stand for nothing afterwards. -/
  | disposed {hs : List Handle} {m : Finmap fun _ : Handle => Compiled} :
      (∀ h, m.lookup h = if h ∈ hs then none else l.patterns.lookup h) →
      Step e l (.dispose hs) none { l with patterns := m }
  | reconfigured {s : Settings} : Step e l (.reconfigure s) none { l with settings := s }

/-- Steps one after the other. -/
inductive Run (e : Engines) : Ledger → List Request → List Reply → Ledger → Prop where
  | nil {l : Ledger} : Run e l [] [] l
  | cons {l m n : Ledger} {q : Request} {a : Reply} {qs : List Request} {as : List Reply} :
      Step e l q a m → Run e m qs as n → Run e l (q :: qs) (a :: as) n

end Ledger

namespace Registry

variable {e : Engines}

/-- A store answers every look-up as a ledger has it. -/
structure AnswersFrom (r : Registry) (l : Ledger) : Prop where
  get : ∀ h, r.get h = match l.patterns.lookup h with
    | some p => .ok p
    | none => .error (.badHandle h)
  contains : ∀ h, r.contains h = true ↔ h ∈ l.patterns
  source? : ∀ h, r.source? h = (l.patterns.lookup h).map (·.source)
  size : r.size = l.size
  isEmpty : r.isEmpty = true ↔ l.patterns = ∅

/-- A store with the engines `e` stands for a ledger. -/
structure Represents (e : Engines) (r : Registry) (l : Ledger) : Prop where
  wellFormed : WellFormed r
  compiler : r.compiler = .ofSettings l.settings e
  get? : ∀ h, r.get? h = l.patterns.lookup h
  size : r.size = l.size

theorem represents_empty (s : Settings) (e : Engines) :
    Represents e (ofSettings s e) (.empty s) where
  wellFormed := wellFormed_ofSettings s e
  compiler := rfl
  get? h := by simp [Registry.get?, ofSettings, Ledger.empty]
  size := by simp [Registry.size, ofSettings, Ledger.size, Ledger.empty]

theorem Represents.mem_iff {r : Registry} {l : Ledger} (rep : Represents e r l) (h : Handle) :
    h ∈ l.patterns ↔ (r.get? h).isSome = true := by
  rw [rep.get?, Finmap.lookup_isSome]

/-- What a store shows is what its ledger says. -/
theorem Represents.answersFrom {r : Registry} {l : Ledger} (rep : Represents e r l) :
    AnswersFrom r l where
  get h := by
    cases hfound : l.patterns.lookup h with
    | some p => simp only [Registry.get, rep.get?, hfound]
    | none => simp only [Registry.get, rep.get?, hfound]
  contains h := by
    rw [Registry.contains, rep.mem_iff]
  source? h := by
    rw [Registry.source?, rep.get?]
  size := rep.size
  isEmpty := by
    have hlive : r.live = l.patterns.keys.card := rep.size
    rw [Registry.isEmpty, beq_iff_eq, hlive, Finset.card_eq_zero]
    refine ⟨fun h => Finmap.ext_lookup fun k => ?_, fun h => by rw [h, Finmap.keys_empty]⟩
    rw [Finmap.lookup_empty, Finmap.lookup_eq_none, ← Finmap.mem_keys, h]
    exact Finset.notMem_empty k

/-! ## One request -/

theorem Represents.store {r s : Registry} {l : Ledger} (rep : Represents e r l) {p : Compiled}
    {h : Handle} (st : Stored r p h s) (wf : WellFormed s) :
    Represents e s { l with patterns := l.patterns.insert h p } where
  wellFormed := wf
  compiler := st.compiler.trans rep.compiler
  get? k := by
    rw [st.get? k]
    by_cases hk : k = h
    · rw [if_pos hk, hk, Finmap.lookup_insert]
    · rw [if_neg hk, Finmap.lookup_insert_of_ne _ hk, rep.get?]
  size := by
    have hfresh : h ∉ l.patterns := by
      rw [rep.mem_iff, st.fresh]
      simp
    have hkeys : (l.patterns.insert h p).keys = Insert.insert h l.patterns.keys := by
      ext k
      rw [Finset.mem_insert, Finmap.mem_keys, Finmap.mem_insert, Finmap.mem_keys]
    rw [st.size, rep.size, Ledger.size, Ledger.size, hkeys, Finset.card_insert_of_notMem]
    rwa [Finmap.mem_keys]

/-- What a compiler gave is stored, refused or turned away as the ledger allows. -/
theorem Represents.insertCompiled {r : Registry} {l : Ledger} (rep : Represents e r l) {q : Request}
    {compiled : Except ScanError Compiled}
    (hq : q.compiled? (.ofSettings l.settings e) = some compiled) :
    ∃ m, Ledger.Step e l q (some (r.insertCompiled compiled).1.value) m ∧
      Represents e (r.insertCompiled compiled).2 m := by
  cases compiled with
  | error e => exact ⟨l, .refused hq, rep⟩
  | ok p =>
      rcases rep.wellFormed.insert_spec p with ⟨hroom, h, hv, st⟩ | ⟨hfull, hv, hs⟩
      · have hfresh : h ∉ l.patterns := by
          rw [rep.mem_iff, st.fresh]
          simp
        refine ⟨_, ?_, rep.store st (rep.wellFormed.insert p)⟩
        rw [show (r.insertCompiled (.ok p)).1.value = .ok h from hv]
        exact .stored hq (rep.size ▸ hroom) hfresh
      · refine ⟨l, ?_, ?_⟩
        · rw [show (r.insertCompiled (.ok p)).1.value = _ from hv]
          exact .full hq (rep.size ▸ hfull)
        · rw [show (r.insertCompiled (.ok p)).2 = r from hs]
          exact rep

theorem Represents.disposeOne {r : Registry} {l : Ledger} (rep : Represents e r l) (h : Handle) :
    Represents e (r.disposeOne h).2 { l with patterns := l.patterns.erase h } where
  wellFormed := rep.wellFormed.disposeOne h
  compiler := (compiler_disposeOne r h).trans rep.compiler
  get? k := by
    rw [get?_disposeOne]
    by_cases hk : k = h
    · rw [if_pos hk, hk, Finmap.lookup_erase]
    · rw [if_neg hk, Finmap.lookup_erase_ne hk, rep.get?]
  size := by
    have hmem := rep.mem_iff h
    have hsize := rep.size
    simp only [Ledger.size, Finmap.keys_erase, Registry.size] at hsize ⊢
    cases hp : r.get? h with
    | none =>
        have hnot : h ∉ l.patterns.keys := by
          rw [Finmap.mem_keys, hmem, hp]
          simp
        rw [disposeOne_of_none hp, Finset.erase_eq_of_notMem hnot, hsize]
    | some p =>
        have hin : h ∈ l.patterns.keys := by
          rw [Finmap.mem_keys, hmem, hp]
          rfl
        rw [disposeOne_of_some hp, Finset.card_erase_of_mem hin, ← hsize]
        rfl

theorem Represents.dispose {r : Registry} {l : Ledger} (rep : Represents e r l) (hs : List Handle) :
    Represents e (r.dispose hs).2 (l.eraseAll hs) := by
  induction hs generalizing r l with
  | nil => exact rep
  | cons h hs ih => exact ih (rep.disposeOne h)

/-- One request keeps a store and its ledger together, by a step that the ledger allows. -/
theorem Represents.perform {r : Registry} {l : Ledger} (rep : Represents e r l) (q : Request) :
    ∃ m, Ledger.Step e l q (r.perform q).1 m ∧ Represents e (r.perform q).2 m := by
  cases q with
  | compile source =>
      exact rep.insertCompiled (by rw [Request.compiled?, rep.compiler])
  | compileBytes source =>
      exact rep.insertCompiled (by rw [Request.compiled?, rep.compiler])
  | dispose hs => exact ⟨_, .disposed (l.lookup_eraseAll hs), rep.dispose hs⟩
  | reconfigure s =>
      refine ⟨_, .reconfigured, rep.wellFormed.perform (.reconfigure s), ?_, rep.get?, rep.size⟩
      rw [compiler_reconfigure, rep.compiler]
      rfl

/-! ## Any run -/

theorem Represents.run {r : Registry} {l : Ledger} (rep : Represents e r l) (qs : List Request) :
    ∃ m, Ledger.Run e l qs (r.run qs).1 m ∧ Represents e (r.run qs).2 m := by
  induction qs generalizing r l with
  | nil => exact ⟨l, .nil, rep⟩
  | cons q qs ih =>
      obtain ⟨m, hstep, hm⟩ := rep.perform q
      obtain ⟨n, hrun, hn⟩ := ih hm
      exact ⟨n, .cons hstep hrun, hn⟩

/-- Whatever is asked of a store that was empty at first, its answers are those of a map that took
the steps allowed, and every look-up at the end is answered from that map. -/
theorem run_simulates (s : Settings) (e : Engines) (qs : List Request) :
    ∃ l, Ledger.Run e (.empty s) qs ((ofSettings s e).run qs).1 l ∧
      AnswersFrom ((ofSettings s e).run qs).2 l := by
  obtain ⟨l, hrun, hl⟩ := (represents_empty s e).run qs
  exact ⟨l, hrun, hl.answersFrom⟩

end Registry

end Leftmost
