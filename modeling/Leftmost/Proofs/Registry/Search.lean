import Leftmost.Proofs.Compiled
import Leftmost.Proofs.Flattened
import Leftmost.Proofs.Registry.Run
import Leftmost.Proofs.Verdict

/-!
# Leftmost.Proofs.Registry.Search

What a store answers to a search with a list of tokens.  Three things may end it early, a token that
stands for nothing, a search that fails and the lack of a match, and they are looked at in this
order:

* `getAll_spec` — the tokens are looked up first, all of them;
* `WellFormed.run_holdsMade` — a store holds only patterns that a compiler made, whose matches
  therefore have group 0;
* `found_flatten_verdict` — what is made of the outcomes of the patterns' own searches;
* `exists_winner_of_findBest` — what is handed over is the region of one of these searches;
* `searches_run` — what a store answers after any run.
-/

namespace Leftmost

namespace Registry

open Selection

/-! ## The patterns of a store -/

/-- All tokens stand for patterns that a compiler made. -/
def HoldsMade (r : Registry) : Prop := ∀ h p, r.get? h = some p → p.IsMade

/-- Bytes that are compiled are a text that is. -/
theorem exists_compile_of_compileBytes {c : Compiler} {source : ByteArray} {p : Compiled}
    (h : c.compileBytes source = .ok p) : ∃ text, c.compile text = .ok p := by
  unfold Compiler.compileBytes at h
  cases ht : String.fromUTF8? source with
  | none => simp [ht] at h
  | some text =>
      simp only [ht] at h
      exact ⟨text, h⟩

theorem WellFormed.insertCompiled_holdsMade {r : Registry} (wf : WellFormed r)
    (hr : HoldsMade r) {compiled : Except ScanError Compiled}
    (hc : ∀ p, compiled = .ok p → p.IsMade) : HoldsMade (r.insertCompiled compiled).2 := by
  cases compiled with
  | error e => exact hr
  | ok p =>
      rcases wf.insert_spec p with ⟨-, h, -, st⟩ | ⟨-, -, hs⟩
      · intro k p' hp'
        have hk := (st.get? k).symm.trans hp'
        by_cases hkh : k = h
        · rw [if_pos hkh, Option.some.injEq] at hk
          exact hk ▸ hc p rfl
        · rw [if_neg hkh] at hk
          exact hr k p' hk
      · rw [show (r.insertCompiled (.ok p)).2 = r from hs]
        exact hr

theorem WellFormed.perform_holdsMade {r : Registry} (wf : WellFormed r) (hr : HoldsMade r)
    (q : Request) : HoldsMade (r.perform q).2 := by
  cases q with
  | compile source => exact wf.insertCompiled_holdsMade hr fun p hp => ⟨_, source, hp⟩
  | compileBytes source =>
      exact wf.insertCompiled_holdsMade hr fun p hp => ⟨_, exists_compile_of_compileBytes hp⟩
  | dispose hs =>
      intro k p hp
      have hk := (get?_dispose r hs k).symm.trans hp
      by_cases hmem : k ∈ hs
      · rw [if_pos hmem] at hk
        cases hk
      · rw [if_neg hmem] at hk
        exact hr k p hk
  | reconfigure s => exact hr

theorem WellFormed.run_holdsMade {r : Registry} (wf : WellFormed r) (hr : HoldsMade r)
    (qs : List Request) : HoldsMade (r.run qs).2 := by
  induction qs generalizing r with
  | nil => exact hr
  | cons q qs ih => exact ih (wf.perform q) (wf.perform_holdsMade hr q)

/-! ## Looking up all tokens -/

/-- All tokens stand for patterns. -/
def Resolves (r : Registry) (hs : List Handle) (ps : List Compiled) : Prop :=
  hs.map r.get? = ps.map some

/-- A token stands for nothing, and those before it in the list stand for patterns. -/
def IsFirstStale (r : Registry) (hs : List Handle) (k : Handle) : Prop :=
  ∃ before after, hs = before ++ k :: after ∧ r.get? k = none ∧
    ∀ l ∈ before, (r.get? l).isSome = true

/-- Looking up tokens gives all patterns, or the error of the first token that stands for
nothing. -/
theorem getAll_spec (r : Registry) (hs : List Handle) :
    (∃ ps, Resolves r hs ps ∧ r.getAll hs = .ok ps) ∨
      ∃ k, IsFirstStale r hs k ∧ r.getAll hs = .error (.badHandle k) := by
  induction hs with
  | nil => exact .inl ⟨[], rfl, rfl⟩
  | cons h hs ih =>
      cases hp : r.get? h with
      | none =>
          refine .inr ⟨h, ⟨[], hs, rfl, hp, by simp⟩, ?_⟩
          simp [getAll, Registry.get, hp]
      | some p =>
          rcases ih with ⟨ps, hres, hall⟩ | ⟨k, ⟨before, after, rfl, hk, hbefore⟩, hall⟩
          · refine .inl ⟨p :: ps, ?_, by simp [getAll, Registry.get, hp, hall]⟩
            rw [Resolves, List.map_cons, List.map_cons, hp, show hs.map r.get? = _ from hres]
          · refine .inr ⟨k, ⟨h :: before, after, rfl, hk, ?_⟩,
              by simp [getAll, Registry.get, hp, hall]⟩
            intro l hl
            rcases List.mem_cons.mp hl with rfl | hl
            · rw [hp]
              rfl
            · exact hbefore l hl

theorem Resolves.get?_ne_none {r : Registry} {hs : List Handle} {ps : List Compiled}
    (h : Resolves r hs ps) {k : Handle} (hk : k ∈ hs) : r.get? k ≠ none := by
  intro hnone
  have hmem : none ∈ ps.map some := h ▸ hnone ▸ List.mem_map_of_mem hk
  simp at hmem

theorem getAll_of_resolves {r : Registry} {hs : List Handle} {ps : List Compiled}
    (h : Resolves r hs ps) : r.getAll hs = .ok ps := by
  rcases getAll_spec r hs with ⟨ps', hres, hall⟩ | ⟨k, ⟨before, after, rfl, hk, -⟩, -⟩
  · have hsame : ps'.map some = ps.map some := hres.symm.trans h
    rw [hall, (List.map_inj_right fun _ _ => Option.some.inj).mp hsame]
  · exact absurd hk (h.get?_ne_none (by simp))

theorem exists_getAll_of_stale {r : Registry} {hs : List Handle} (h : ∃ k ∈ hs, r.get? k = none) :
    ∃ k, r.getAll hs = .error (.badHandle k) := by
  rcases getAll_spec r hs with ⟨ps, hres, -⟩ | ⟨k, -, hall⟩
  · obtain ⟨k, hk, hnone⟩ := h
    exact absurd hnone (hres.get?_ne_none hk)
  · exact ⟨k, hall⟩

theorem exists_resolves {r : Registry} {hs : List Handle} (h : ∀ k ∈ hs, r.get? k ≠ none) :
    ∃ ps, Resolves r hs ps := by
  rcases getAll_spec r hs with ⟨ps, hres, -⟩ | ⟨k, ⟨before, after, rfl, hk, -⟩, -⟩
  · exact ⟨ps, hres⟩
  · exact absurd hk (h k (by simp))

theorem Resolves.length_eq {r : Registry} {hs : List Handle} {ps : List Compiled}
    (h : Resolves r hs ps) : ps.length = hs.length := by
  simpa using (congrArg List.length h).symm

/-- The token at a position stands for the pattern there. -/
theorem Resolves.holdsAt {r : Registry} {hs : List Handle} {ps : List Compiled}
    (h : Resolves r hs ps) {i : Nat} {p : Compiled} (hp : ps[i]? = some p) :
    ∃ k, hs[i]? = some k ∧ r.get? k = some p := by
  have hmap : (hs.map r.get?)[i]? = some (some p) := by
    rw [show hs.map r.get? = _ from h, List.getElem?_map, hp]
    rfl
  rwa [List.getElem?_map, Option.map_eq_some_iff] at hmap

/-- The pattern at a position is that of the token there. -/
theorem Resolves.patternAt {r : Registry} {hs : List Handle} {ps : List Compiled}
    (h : Resolves r hs ps) {i : Nat} {k : Handle} (hk : hs[i]? = some k) :
    ∃ p, ps[i]? = some p ∧ r.get? k = some p := by
  have hmap : (ps.map some)[i]? = some (r.get? k) := by
    rw [← show hs.map r.get? = _ from h, List.getElem?_map, hk]
    rfl
  rw [List.getElem?_map, Option.map_eq_some_iff] at hmap
  obtain ⟨p, hp, heq⟩ := hmap
  exact ⟨p, hp, heq.symm⟩

theorem Resolves.holds {r : Registry} {hs : List Handle} {ps : List Compiled}
    (h : Resolves r hs ps) {p : Compiled} (hp : p ∈ ps) : ∃ k ∈ hs, r.get? k = some p := by
  obtain ⟨i, hi⟩ := List.getElem?_of_mem hp
  obtain ⟨k, hk, hkp⟩ := h.holdsAt hi
  exact ⟨k, List.mem_of_getElem? hk, hkp⟩

/-! ## A search in any monad -/

/-- What is handed over of the winner. -/
def flatten : Best → FlatMatch
  | some (index, r) => .ofRegion r index
  | none => .noMatch

/-- A search in which each pattern looks as it is told, with whatever effects that has. -/
def findBestBy {m : Type → Type} [Monad m] (look : Compiled → Searcher m) (r : Registry)
    (hs : List Handle) (text : ByteArray) (start : Nat) :
    m (Logged (Except ScanError FlatMatch)) :=
  match r.getAll hs with
  | .error e => pure { value := .error e, events := [] }
  | .ok ps => do
    let pass ← select (ps.map look) (.ofStart text start)
    return { value := pass.value.map flatten, events := pass.events }

/-- A store searches by the patterns' own searches. -/
theorem findBest_eq (r : Registry) (hs : List Handle) (text : ByteArray) (start : Nat) :
    r.findBest hs text start =
      Id.run (r.findBestBy (fun p h first stop => pure (p.search h first stop)) hs text start) := by
  unfold findBest findBestBy
  cases r.getAll hs with
  | error e => rfl
  | ok ps => rfl

/-- The outcomes of the patterns' own searches of a whole text. -/
def ownOutcomes (ps : List Compiled) (text : ByteArray) (start : Nat) : List Outcome :=
  ps.map fun p => p.search text (min start text.size) text.size

theorem getElem?_ownOutcomes {ps : List Compiled} {text : ByteArray} {start i : Nat} {o : Outcome} :
    (ownOutcomes ps text start)[i]? = some o ↔
      ∃ p, ps[i]? = some p ∧ p.search text (min start text.size) text.size = o := by
  rw [ownOutcomes, List.getElem?_map, Option.map_eq_some_iff]

theorem value_bestOf (ps : List Compiled) (text : ByteArray) (start : Nat) :
    (bestOf ps text start).value = (verdict (ownOutcomes ps text start)).map flatten := by
  have houtcomes : outcomes (ps.map fun p h first stop => pure (p.search h first stop))
      (.ofStart text start) = ownOutcomes ps text start := by
    simp only [outcomes, ownOutcomes, List.map_map]
    rfl
  rw [verdict, ← houtcomes, ← value_selectFrom]
  rfl

theorem value_findBest {r : Registry} {hs : List Handle} {ps : List Compiled}
    (h : r.getAll hs = .ok ps) (text : ByteArray) (start : Nat) :
    (r.findBest hs text start).value = (verdict (ownOutcomes ps text start)).map flatten := by
  rw [findBest, h, value_bestOf]

/-! ## What fails -/

theorem value_findBest_of_isFirstFailure {r : Registry} {hs : List Handle} {ps : List Compiled}
    (hres : Resolves r hs ps) {text : ByteArray} {start i : Nat} {f : SearchFailure}
    (hf : IsFirstFailure (ownOutcomes ps text start) i f) :
    (r.findBest hs text start).value = .error (.ofFailure i f) := by
  rw [value_findBest (getAll_of_resolves hres)]
  rcases verdict_spec (ownOutcomes ps text start) with ⟨j, g, hg, hv⟩ | ⟨hno, -⟩
  · obtain ⟨rfl, rfl⟩ := hf.unique hg
    rw [hv]
    rfl
  · exact absurd hf.1 (hno i f)

theorem exists_value_findBest {r : Registry} {hs : List Handle} {ps : List Compiled}
    (hres : Resolves r hs ps) {text : ByteArray} {start : Nat}
    (hno : ∀ i f, ¬IsFirstFailure (ownOutcomes ps text start) i f) :
    ∃ best, (r.findBest hs text start).value = .ok best := by
  rw [value_findBest (getAll_of_resolves hres)]
  rcases verdict_spec (ownOutcomes ps text start) with ⟨i, f, hf, -⟩ | ⟨-, best, hv, -⟩
  · exact absurd hf (hno i f)
  · exact ⟨flatten best, by rw [hv]; rfl⟩

/-- The codes of a search that fails. -/
theorem code_of_isFirstFailure {ps : List Compiled} {text : ByteArray} {start i : Nat}
    {f : SearchFailure} (h : IsFirstFailure (ownOutcomes ps text start) i f) :
    f.code = .stackLimit ∨ f.code = .memory ∨ f.code = .invalidCodePoint := by
  obtain ⟨p, -, hp⟩ := getElem?_ownOutcomes.mp h.1
  exact Compiled.code_of_search hp

/-! ## What is found -/

/-- The outcome at a position is a match. -/
def IsMatch (os : List Outcome) (i : Nat) (r : Region) : Prop := os[i]? = some (.ok (some r))

/-- What has to be made of the outcomes of searches. -/
structure Found (os : List Outcome) (result : Except ScanError FlatMatch) : Prop where
  /-- A match reports group 0. -/
  grouped : ∀ i r, IsMatch os i r → 0 < r.groupCount
  failed : (∃ i f, IsFailure os i f) →
    ∃ i f, IsFirstFailure os i f ∧ result = .error (.badSearch i f.code f.message)
  missed : (∀ i f, ¬IsFailure os i f) → (∀ i r, ¬IsMatch os i r) → result = .ok .noMatch
  /-- The earliest match is handed over with the position of its pattern. -/
  found : (∀ i f, ¬IsFailure os i f) → (∃ i r, IsMatch os i r) →
    ∃ i r m, IsEarliest os i r ∧ result = .ok m ∧ m.isMatch = true ∧ m.index = i ∧
      m.offsets.toList = (List.range r.groupCount).flatMap fun g => [r.first g, r.last g]

/-- The verdict on outcomes, flattened, is what has to be made of them. -/
theorem found_flatten_verdict {os : List Outcome}
    (hgroups : ∀ i r, IsMatch os i r → 0 < r.groupCount) :
    Found os ((verdict os).map flatten) := by
  rcases verdict_spec os with ⟨i, f, hf, hv⟩ | ⟨hno, best, hv, hbest⟩
  · rw [hv]
    exact ⟨hgroups, fun _ => ⟨i, f, hf, rfl⟩, fun hno => absurd hf.1 (hno i f),
      fun hno => absurd hf.1 (hno i f)⟩
  · rw [hv]
    refine ⟨hgroups, fun ⟨i, f, hf⟩ => absurd hf (hno i f), fun _ hnone => ?_, fun _ hsome => ?_⟩
    · cases best with
      | none => rfl
      | some b => exact absurd hbest.1.1 (hnone b.1 b.2)
    · cases best with
      | none =>
          obtain ⟨i, r, hr⟩ := hsome
          exact absurd ⟨hr, hgroups i r hr⟩ (hbest i r)
      | some b =>
          obtain ⟨i, r⟩ := b
          exact ⟨i, r, .ofRegion r i, hbest, rfl, FlatMatch.isMatch_ofRegion hbest.1.2 i, rfl,
            FlatMatch.offsets_ofRegion r i⟩

/-- Without a failure a match is handed over exactly if there is one. -/
theorem Found.exists_isMatch_iff {os : List Outcome} {result : Except ScanError FlatMatch}
    (h : Found os result) (hno : ∀ i f, ¬IsFailure os i f) :
    ∃ m, result = .ok m ∧ (m.isMatch = true ↔ ∃ i r, IsMatch os i r) := by
  by_cases hsome : ∃ i r, IsMatch os i r
  · obtain ⟨i, r, m, -, hm, hmatch, -⟩ := h.found hno hsome
    exact ⟨m, hm, iff_of_true hmatch hsome⟩
  · have hm := h.missed hno fun i r hr => hsome ⟨i, r, hr⟩
    exact ⟨.noMatch, hm, iff_of_false Bool.false_ne_true hsome⟩

/-- A match that is handed over is one of the outcomes. -/
theorem Found.index_lt {os : List Outcome} {result : Except ScanError FlatMatch}
    (h : Found os result) {m : FlatMatch} (hm : result = .ok m) (hmatch : m.isMatch = true) :
    m.index < os.length := by
  by_cases hno : ∀ i f, ¬IsFailure os i f
  · by_cases hnone : ∀ i r, ¬IsMatch os i r
    · rw [h.missed hno hnone, Except.ok.injEq] at hm
      rw [← hm] at hmatch
      cases hmatch
    · obtain ⟨i, r, m', hearliest, hr, -, rfl, -⟩ := h.found hno (by simpa using hnone)
      obtain rfl : m' = m := by simpa using hr.symm.trans hm
      exact hearliest.1.lt_length
  · obtain ⟨i, f, -, hr⟩ := h.failed (by simpa using hno)
    simp [hm] at hr

/-- What a store has to answer to a search with tokens. -/
structure Searches (r : Registry) (hs : List Handle) (text : ByteArray) (start : Nat) : Prop where
  /-- A store searches by the patterns' own searches. -/
  own : r.findBest hs text start =
    Id.run (r.findBestBy (fun p h first stop => pure (p.search h first stop)) hs text start)
  /-- The first token that stands for nothing is the answer, and however patterns look, none of
  them does. -/
  stale : (∃ k ∈ hs, r.get? k = none) → ∃ k, IsFirstStale r hs k ∧
    (r.findBest hs text start).value = .error (.badHandle k) ∧
    ∀ (m : Type → Type) [Monad m] (look : Compiled → Searcher m),
      r.findBestBy look hs text start = pure { value := .error (.badHandle k), events := [] }
  /-- If there is none, the answer is made of the patterns' own searches from the start on. -/
  resolved : (∀ k ∈ hs, (r.get? k).isSome = true) → ∃ ps, Resolves r hs ps ∧
    Found (ownOutcomes ps text start) (r.findBest hs text start).value
  index_lt : ∀ m, (r.findBest hs text start).value = .ok m → m.isMatch = true →
    m.index < hs.length

/-- An answer that is no error is made of the earliest of the regions that the patterns found, if they
found any. -/
theorem findBest_ok_spec {r : Registry} {hs : List Handle} {text : ByteArray} {start : Nat}
    {m : FlatMatch} (h : (r.findBest hs text start).value = .ok m) :
    ∃ ps, Resolves r hs ps ∧
      ((m = .noMatch ∧ ∀ i reg, ¬IsCandidate (ownOutcomes ps text start) i reg) ∨
        ∃ i reg, IsEarliest (ownOutcomes ps text start) i reg ∧ m = .ofRegion reg i) := by
  rcases getAll_spec r hs with ⟨ps, hres, hall⟩ | ⟨k, -, hall⟩
  · refine ⟨ps, hres, ?_⟩
    rw [value_findBest hall] at h
    rcases verdict_spec (ownOutcomes ps text start) with ⟨i, f, -, hv⟩ | ⟨-, best, hv, hbest⟩
    · rw [hv] at h
      cases h
    · rw [hv] at h
      cases best with
      | none =>
          cases h
          exact .inl ⟨rfl, hbest⟩
      | some b =>
          cases h
          exact .inr ⟨b.1, b.2, hbest, rfl⟩
  · rw [findBest, hall] at h
    cases h

/-- A match that is handed over is the region that the pattern at its position found. -/
theorem exists_winner_of_findBest {r : Registry} {hs : List Handle} {text : ByteArray} {start : Nat}
    {m : FlatMatch} (h : (r.findBest hs text start).value = .ok m) (hm : m.isMatch = true) :
    ∃ k p reg, hs[m.index]? = some k ∧ r.get? k = some p ∧
      p.search text (min start text.size) text.size = .ok (some reg) ∧
      m = .ofRegion reg m.index := by
  obtain ⟨ps, hres, ⟨rfl, -⟩ | ⟨i, reg, hearliest, rfl⟩⟩ := findBest_ok_spec h
  · cases hm
  · obtain ⟨p, hp, hsearch⟩ := getElem?_ownOutcomes.mp hearliest.1.1
    obtain ⟨k, hk, hkp⟩ := hres.holdsAt hp
    exact ⟨k, p, reg, hk, hkp, hsearch, rfl⟩

/-- A match that is handed over is made of the region that one of the patterns found. -/
theorem exists_region_of_findBest {r : Registry} {hs : List Handle} {text : ByteArray} {start : Nat}
    {m : FlatMatch} (h : (r.findBest hs text start).value = .ok m) (hm : m.isMatch = true) :
    ∃ k ∈ hs, ∃ p reg, r.get? k = some p ∧
      p.search text (min start text.size) text.size = .ok (some reg) ∧
      m.groups = reg.bounds.toList := by
  obtain ⟨k, p, reg, hk, hp, hsearch, heq⟩ := exists_winner_of_findBest h hm
  refine ⟨k, List.mem_of_getElem? hk, p, reg, hp, hsearch, ?_⟩
  rw [heq, FlatMatch.groups_ofRegion]

/-- The matches of made patterns report group 0. -/
theorem found_of_isMade {ps : List Compiled} (hps : ∀ p ∈ ps, p.IsMade) (text : ByteArray)
    (start : Nat) :
    Found (ownOutcomes ps text start) ((verdict (ownOutcomes ps text start)).map flatten) := by
  refine found_flatten_verdict fun i reg hreg => ?_
  obtain ⟨p, hp, hsearch⟩ := getElem?_ownOutcomes.mp hreg
  rw [Compiled.groupCount_search hsearch]
  exact (hps p (List.mem_of_getElem? hp)).groupCount_pos

theorem HoldsMade.found {r : Registry} (hr : HoldsMade r) {hs : List Handle} {ps : List Compiled}
    (hres : Resolves r hs ps) (hps : r.getAll hs = .ok ps) (text : ByteArray) (start : Nat) :
    Found (ownOutcomes ps text start) (r.findBest hs text start).value := by
  rw [value_findBest hps]
  refine found_of_isMade (fun p hp => ?_) text start
  obtain ⟨k, -, hk⟩ := hres.holds hp
  exact hr k p hk

theorem HoldsMade.searches {r : Registry} (hr : HoldsMade r) (hs : List Handle)
    (text : ByteArray) (start : Nat) : Searches r hs text start where
  own := findBest_eq r hs text start
  stale hstale := by
    rcases getAll_spec r hs with ⟨ps, hres, -⟩ | ⟨k, hfirst, hall⟩
    · obtain ⟨k, hk, hnone⟩ := hstale
      have hmem : none ∈ ps.map some := hres ▸ hnone ▸ List.mem_map_of_mem hk
      simp at hmem
    · exact ⟨k, hfirst, by rw [findBest, hall], fun m _ look => by rw [findBestBy, hall]⟩
  resolved hall := by
    rcases getAll_spec r hs with ⟨ps, hres, hps⟩ | ⟨k, ⟨before, after, rfl, hk, -⟩, -⟩
    · exact ⟨ps, hres, hr.found hres hps text start⟩
    · have := hall k (by simp)
      rw [hk] at this
      cases this
  index_lt m hm hmatch := by
    rcases getAll_spec r hs with ⟨ps, hres, hps⟩ | ⟨k, -, hall⟩
    · have hlt := (hr.found hres hps text start).index_lt hm hmatch
      rwa [ownOutcomes, List.length_map, hres.length_eq] at hlt
    · rw [findBest, hall] at hm
      cases hm

/-- After any run a search with any tokens is answered by the first token that stands for nothing;
else by the first pattern whose own search fails; else by the earliest match, if there is one. -/
theorem searches_run (s : Settings) (e : Engines) (qs : List Request) (hs : List Handle)
    (text : ByteArray) (start : Nat) : Searches ((ofSettings s e).run qs).2 hs text start := by
  have hempty : HoldsMade (ofSettings s e) := fun h p hp => by
    simp [Registry.get?, ofSettings] at hp
  exact ((wellFormed_ofSettings s e).run_holdsMade hempty qs).searches hs text start

end Registry

end Leftmost
