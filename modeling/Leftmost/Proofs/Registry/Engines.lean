import Leftmost.Proofs.Registry.Search

/-!
# Leftmost.Proofs.Registry.Engines

Patterns of both engines in one store.  Settings may change between patterns, and each pattern keeps
the engine that it was compiled with; which texts a search fails on is told from these engines alone:

* `IsMade.exists_search_of_standard` — the standard engine never fails;
* `WellFormed.tracks_run` — each token stands for a pattern of the engine that was in force when the
  token was handed out;
* `engineDecides_run` — hence a text that is not UTF-8 fails at the first token of the backtracking
  engine, and any other text only where a limit is overrun.
-/

namespace Leftmost

namespace Compiled

/-- The standard engine never fails. -/
theorem IsMade.exists_search_of_standard {p : Compiled} (hp : p.IsMade)
    (he : p.engine = .standard) (h : ByteArray) (start : Nat) :
    ∃ found, p.search h start h.size = .ok found := by
  obtain ⟨c, source, hc⟩ := hp
  obtain ⟨f, hf, rfl⟩ := Compiler.compile_eq_ok_iff.mp hc
  rw [show c.engine = .standard from he] at hf
  obtain ⟨found, hfound⟩ := c.engines.find_standard hf c.backtrackLimit.toNat h (min start h.size)
  rw [search_of_standard he, own, hfound]
  exact ⟨_, rfl⟩

/-- In UTF-8 only the backtracking engine fails, and only where it overruns a limit. -/
theorem IsMade.of_search_eq_error {p : Compiled} (hp : p.IsMade) {h : ByteArray}
    (hvalid : h.IsValidUTF8) {start : Nat} {f : SearchFailure}
    (hf : p.search h start h.size = .error f) :
    p.engine = .backtracking ∧ (f.code = .stackLimit ∨ f.code = .memory) := by
  cases he : p.engine with
  | standard =>
      obtain ⟨found, hfound⟩ := hp.exists_search_of_standard he h start
      cases hfound.symm.trans hf
  | backtracking => exact ⟨rfl, code_of_search_of_isValidUTF8 hvalid hf⟩

end Compiled

theorem Compiler.engine_of_compile {c : Compiler} {source : String} {p : Compiled}
    (h : c.compile source = .ok p) : p.engine = c.engine := by
  obtain ⟨f, -, rfl⟩ := compile_eq_ok_iff.mp h
  rfl

namespace Registry

open Selection

/-! ## Engines told from a history -/

/-- What requests and their answers tell: the settings in force, and the engine that was in force when
a token was last handed out. -/
structure Record where
  settings : Settings
  engine : Handle → Option Engine

namespace Record

/-- Before the first request. -/
def start (s : Settings) : Record := ⟨s, fun _ => none⟩

/-- Takes down an answer: a token is handed out under the settings in force. -/
def handOut (rec : Record) : Reply → Record
  | some (.ok h) =>
    { rec with engine := fun k => if k = h then some rec.settings.engine else rec.engine k }
  | some (.error _) | none => rec

/-- Takes down a request and its answer. -/
def note (rec : Record) (q : Request) (a : Reply) : Record :=
  match q with
  | .reconfigure s => { rec with settings := s }
  | .compile _ | .compileBytes _ | .dispose _ => rec.handOut a

/-- Takes down requests and their answers. -/
def noteAll (rec : Record) : List Request → List Reply → Record
  | q :: qs, a :: as => (rec.note q a).noteAll qs as
  | _, _ => rec

end Record

/-- A store is as its record says. -/
structure Tracks (r : Registry) (rec : Record) : Prop where
  compiler : r.compiler = .ofSettings rec.settings r.compiler.engines
  engine : ∀ h p, r.get? h = some p → rec.engine h = some p.engine

theorem get?_ofSettings (s : Settings) (e : Engines) (h : Handle) :
    (ofSettings s e).get? h = none := by
  simp [Registry.get?, ofSettings]

theorem tracks_ofSettings (s : Settings) (e : Engines) : Tracks (ofSettings s e) (.start s) where
  compiler := rfl
  engine h p hp := by cases (get?_ofSettings s e h).symm.trans hp

theorem WellFormed.tracks_insertCompiled {r : Registry} (wf : WellFormed r) {rec : Record}
    (ht : Tracks r rec) {compiled : Except ScanError Compiled}
    (hc : ∀ p, compiled = .ok p → p.engine = r.compiler.engine) :
    Tracks (r.insertCompiled compiled).2
      (rec.handOut (some (r.insertCompiled compiled).1.value)) := by
  cases compiled with
  | error e => exact ht
  | ok p =>
      show Tracks (r.insert p).2 (rec.handOut (some (r.insert p).1.value))
      rcases wf.insert_spec p with ⟨-, h, hv, st⟩ | ⟨-, hv, hs⟩
      · rw [hv]
        refine ⟨by rw [st.compiler]; exact ht.compiler, fun k p' hp' => ?_⟩
        have hk := (st.get? k).symm.trans hp'
        simp only [Record.handOut]
        by_cases hkh : k = h
        · rw [if_pos hkh, Option.some.injEq] at hk
          rw [if_pos hkh, ← hk, hc p rfl, ht.compiler]
          rfl
        · rw [if_neg hkh] at hk ⊢
          exact ht.engine k p' hk
      · rw [hs, hv]
        exact ht

/-- A request keeps a store as its record says. -/
theorem WellFormed.tracks_perform {r : Registry} (wf : WellFormed r) {rec : Record}
    (ht : Tracks r rec) (q : Request) : Tracks (r.perform q).2 (rec.note q (r.perform q).1) := by
  cases q with
  | compile source =>
      exact wf.tracks_insertCompiled ht fun p hp => Compiler.engine_of_compile hp
  | compileBytes source =>
      refine wf.tracks_insertCompiled ht fun p hp => ?_
      obtain ⟨text, htext⟩ := exists_compile_of_compileBytes hp
      exact Compiler.engine_of_compile htext
  | dispose hs =>
      refine ⟨?_, fun k p hp => ?_⟩
      · rw [show (r.perform (.dispose hs)).2.compiler = r.compiler from compiler_dispose r hs]
        exact ht.compiler
      have hk := (get?_dispose r hs k).symm.trans hp
      by_cases hmem : k ∈ hs
      · rw [if_pos hmem] at hk
        cases hk
      · rw [if_neg hmem] at hk
        exact ht.engine k p hk
  | reconfigure s => exact ⟨rfl, ht.engine⟩

/-- A run keeps a store as its record says. -/
theorem WellFormed.tracks_run {r : Registry} (wf : WellFormed r) {rec : Record}
    (ht : Tracks r rec) (qs : List Request) : Tracks (r.run qs).2 (rec.noteAll qs (r.run qs).1) := by
  induction qs generalizing r rec with
  | nil => exact ht
  | cons q qs ih => exact ih (wf.perform q) (wf.tracks_perform ht q)

/-! ## What a search fails on -/

/-- A token was handed out under the backtracking engine, and no token before it in the list was. -/
def IsFirstBacktracking (engine : Handle → Option Engine) (hs : List Handle) (i : Nat) : Prop :=
  (∃ k, hs[i]? = some k ∧ engine k = some .backtracking) ∧
    ∀ j < i, ∀ k, hs[j]? = some k → engine k ≠ some .backtracking

/-- The engines of tokens decide which texts a search fails on. -/
structure EngineDecides (engine : Handle → Option Engine) (r : Registry) (hs : List Handle)
    (text : ByteArray) (start : Nat) : Prop where
  /-- A text that is not UTF-8 fails at the first token of the backtracking engine. -/
  refused : ¬text.IsValidUTF8 → ∀ i, IsFirstBacktracking engine hs i → ∃ flaw,
    Utf8.check text = .error flaw ∧ (r.findBest hs text start).value =
      .error (.badSearch i .invalidCodePoint flaw.message)
  /-- Without such a token it does not fail. -/
  taken : ¬text.IsValidUTF8 → (∀ k ∈ hs, engine k ≠ some .backtracking) →
    ∃ best, (r.findBest hs text start).value = .ok best
  /-- Any other text fails where a limit is overrun, and only at a token of the backtracking
  engine. -/
  overran : text.IsValidUTF8 → ∀ e, (r.findBest hs text start).value = .error e →
    ∃ i k code message, hs[i]? = some k ∧ engine k = some .backtracking ∧
      e = .badSearch i code message ∧ (code = .stackLimit ∨ code = .memory)

section

variable {r : Registry} {rec : Record} (ht : Tracks r rec) (hmade : HoldsMade r)
  {hs : List Handle} {ps : List Compiled} (hres : Resolves r hs ps)
include ht hmade hres

/-- Only patterns of the backtracking engine fail. -/
theorem Tracks.of_isFailure {text : ByteArray} {start i : Nat} {f : SearchFailure}
    (hf : IsFailure (ownOutcomes ps text start) i f) :
    ∃ (k : Handle) (p : Compiled), hs[i]? = some k ∧ rec.engine k = some .backtracking ∧
      p.IsMade ∧ p.search text (min start text.size) text.size = .error f := by
  obtain ⟨p, hp, hsearch⟩ := getElem?_ownOutcomes.mp hf
  obtain ⟨k, hk, hkp⟩ := hres.holdsAt hp
  have hengine := ht.engine k p hkp
  cases he : p.engine with
  | standard =>
      obtain ⟨found, hfound⟩ := (hmade k p hkp).exists_search_of_standard he text
        (min start text.size)
      cases hfound.symm.trans hsearch
  | backtracking => exact ⟨k, p, hk, he ▸ hengine, hmade k p hkp, hsearch⟩

theorem Tracks.engineDecides (text : ByteArray) (start : Nat) :
    EngineDecides rec.engine r hs text start where
  refused hinvalid i hfirst := by
    obtain ⟨⟨k, hk, hengine⟩, hbefore⟩ := hfirst
    obtain ⟨flaw, hflaw⟩ := Utf8.check_of_not_isValidUTF8 hinvalid
    obtain ⟨p, hp, hkp⟩ := hres.patternAt hk
    have he : p.engine = .backtracking :=
      Option.some.inj ((ht.engine k p hkp).symm.trans hengine)
    refine ⟨flaw, hflaw, ?_⟩
    refine value_findBest_of_isFirstFailure hres (f := ⟨.invalidCodePoint, flaw.message⟩)
      ⟨?_, fun j hj g hg => ?_⟩
    · exact getElem?_ownOutcomes.mpr
        ⟨p, hp, Compiled.search_of_check_eq_error he hflaw (min start text.size)⟩
    · obtain ⟨l, -, hl, hlengine, -⟩ := ht.of_isFailure hmade hres hg
      exact hbefore j hj l hl hlengine
  taken _ hnone := by
    refine exists_value_findBest hres fun i f hf => ?_
    obtain ⟨k, -, hk, hengine, -⟩ := ht.of_isFailure hmade hres hf.1
    exact hnone k (List.mem_of_getElem? hk) hengine
  overran hvalid e he := by
    by_cases hno : ∀ i f, ¬IsFirstFailure (ownOutcomes ps text start) i f
    · obtain ⟨best, hbest⟩ := exists_value_findBest hres hno
      cases hbest.symm.trans he
    · obtain ⟨i, f, hf⟩ : ∃ i f, IsFirstFailure (ownOutcomes ps text start) i f := by
        simpa using hno
      obtain ⟨k, p, hk, hengine, hp, hsearch⟩ := ht.of_isFailure hmade hres hf.1
      have hvalue := value_findBest_of_isFirstFailure hres hf
      rw [he, Except.error.injEq] at hvalue
      exact ⟨i, k, f.code, f.message, hk, hengine, hvalue,
        (hp.of_search_eq_error hvalid hsearch).2⟩

end

/-- After any run a search with tokens that stand for patterns fails as the engines decide that were
in force when the tokens were handed out. -/
theorem engineDecides_run (s : Settings) (e : Engines) (qs : List Request) {hs : List Handle}
    (hlive : ∀ k ∈ hs, ((ofSettings s e).run qs).2.get? k ≠ none) (text : ByteArray)
    (start : Nat) :
    EngineDecides ((Record.start s).noteAll qs ((ofSettings s e).run qs).1).engine
      ((ofSettings s e).run qs).2 hs text start := by
  have wf := wellFormed_ofSettings s e
  have hempty : HoldsMade (ofSettings s e) := fun h p hp => by
    cases (get?_ofSettings s e h).symm.trans hp
  obtain ⟨ps, hres⟩ := exists_resolves hlive
  exact (wf.tracks_run (tracks_ofSettings s e) qs).engineDecides (wf.run_holdsMade hempty qs) hres
    text start

/-- A pattern of the standard engine before one of the other, with settings changed in between and
behind. -/
def mixedRequests : List Request :=
  [.compile "a", .reconfigure {}, .compile "b", .reconfigure { engine := .standard }]

/-- What these requests lead to. -/
def mixedRun : List Reply × Registry := (ofSettings { engine := .standard }).run mixedRequests

theorem engine_mixedRun : ((Record.start { engine := .standard }).noteAll mixedRequests
      mixedRun.1).engine ⟨0, 0⟩ = some .standard ∧
    ((Record.start { engine := .standard }).noteAll mixedRequests
      mixedRun.1).engine ⟨1, 0⟩ = some .backtracking := by
  decide +kernel

/-- The second pattern fails on a byte in front of the start, although the first one matches; the
first one alone does not fail. -/
theorem engineDecides_mixed :
    (∀ k ∈ [⟨0, 0⟩, ⟨1, 0⟩], mixedRun.2.get? k ≠ none) ∧
    (∃ flaw, (mixedRun.2.findBest [⟨0, 0⟩, ⟨1, 0⟩] ⟨#[0xff, 0x61]⟩ 1).value =
      .error (.badSearch 1 .invalidCodePoint flaw)) ∧
    ∃ best, (mixedRun.2.findBest [⟨0, 0⟩] ⟨#[0xff, 0x61]⟩ 1).value = .ok best := by
  obtain ⟨hfirst, hsecond⟩ := engine_mixedRun
  have hcontains : ∀ k ∈ [⟨0, 0⟩, ⟨1, 0⟩], mixedRun.2.contains k = true := by decide +kernel
  have hlive : ∀ k ∈ [⟨0, 0⟩, ⟨1, 0⟩], mixedRun.2.get? k ≠ none := by
    intro k hk hnone
    have := hcontains k hk
    simp [contains, hnone] at this
  have hinvalid : ¬(⟨#[0xff, 0x61]⟩ : ByteArray).IsValidUTF8 :=
    ByteArray.validateUTF8_eq_false_iff.mp (by decide)
  refine ⟨hlive, ?_, ?_⟩
  · have hboth := engineDecides_run { engine := .standard } .builtIn mixedRequests hlive
      ⟨#[0xff, 0x61]⟩ 1
    obtain ⟨flaw, -, hvalue⟩ := hboth.refused hinvalid 1 ⟨⟨_, rfl, hsecond⟩, by
      intro j hj k hk he
      obtain rfl : j = 0 := by omega
      obtain rfl : ⟨0, 0⟩ = k := Option.some.inj hk
      cases hfirst.symm.trans he⟩
    exact ⟨_, hvalue⟩
  · have hliveFirst : ∀ k ∈ [⟨0, 0⟩], mixedRun.2.get? k ≠ none := fun k hk =>
      hlive k (List.mem_cons.mpr (.inl (List.mem_singleton.mp hk)))
    have halone := engineDecides_run { engine := .standard } .builtIn mixedRequests
      hliveFirst ⟨#[0xff, 0x61]⟩ 1
    refine halone.taken hinvalid fun k hk he => ?_
    obtain rfl := List.mem_singleton.mp hk
    cases hfirst.symm.trans he

end Registry

end Leftmost
