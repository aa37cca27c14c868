import Leftmost.Proofs.Registry.Search
import Leftmost.Proofs.Scanner

/-!
# Leftmost.Proofs.Scanner.Sources

A search that is given its patterns as texts.  There are three ways to carry it out: in a store made
for it, by a scanner, and in a store that has been in use, whose tokens then name slots given up and
filled again.  None of them shows in the answer:

* `Answered` — what has to be answered, told from the texts alone;
* `WellFormed.compileEach_spec` — the tokens of texts that find room stand for what each of them
  compiles to, whatever the store was used for before;
* `value_compileAll`, `exists_resolves_of_ofPatterns` — a scanner compiles its texts like a store;
* `answered_alike` — hence all three ways give the answer asked for.
-/

namespace Leftmost

/-- The error for a text that is refused names the text. -/
theorem Compiler.badPattern_of_compile {c : Compiler} {source : String} {e : ScanError}
    (h : c.compile source = .error e) : ∃ code message, e = .badPattern source code message := by
  obtain ⟨fault, -, rfl⟩ := compile_eq_error_iff.mp h
  exact ⟨_, _, rfl⟩

theorem Compiler.source_of_compile {c : Compiler} {source : String} {p : Compiled}
    (h : c.compile source = .ok p) : p.source = source := by
  obtain ⟨f, -, rfl⟩ := compile_eq_ok_iff.mp h
  rfl

namespace Registry

open Selection

/-! ## The answer to texts -/

/-- Texts compile, each to the pattern at its position. -/
abbrev CompileTo (c : Compiler) (sources : List String) (ps : List Compiled) : Prop :=
  List.Forall₂ (fun source p => c.compile source = .ok p) sources ps

/-- What holds of all patterns that texts compile to, text by text. -/
theorem CompileTo.forall_iff {c : Compiler} {sources : List String} {ps : List Compiled}
    (h : CompileTo c sources ps) {P : Compiled → Prop} :
    (∀ source ∈ sources, ∀ p, c.compile source = .ok p → P p) ↔ ∀ p ∈ ps, P p := by
  induction h with
  | nil => simp
  | @cons source p sources ps hp _ ih => simp [hp, ih]

theorem CompileTo.isMade {c : Compiler} {sources : List String} {ps : List Compiled}
    (h : CompileTo c sources ps) : ∀ p ∈ ps, p.IsMade :=
  h.forall_iff.mp fun source _ _ hp => ⟨c, source, hp⟩

/-- The text at a position compiles to the pattern there. -/
theorem CompileTo.textAt {c : Compiler} {sources : List String} {ps : List Compiled}
    (h : CompileTo c sources ps) {i : Nat} {p : Compiled} (hp : ps[i]? = some p) :
    ∃ source, sources[i]? = some source ∧ c.compile source = .ok p := by
  induction h generalizing i with
  | nil => cases hp
  | @cons source q _ _ hq _ ih =>
      cases i with
      | zero =>
          obtain rfl : q = p := Option.some.inj hp
          exact ⟨source, rfl, hq⟩
      | succ i => exact ih hp

/-- Patterns keep their texts. -/
theorem CompileTo.map_source {c : Compiler} {sources : List String} {ps : List Compiled}
    (h : CompileTo c sources ps) : ps.map (·.source) = sources := by
  induction h with
  | nil => rfl
  | cons hp _ ih => rw [List.map_cons, Compiler.source_of_compile hp, ih]

/-- What has to be answered to a search with texts. -/
structure Answered (c : Compiler) (sources : List String) (text : ByteArray) (start : Nat)
    (answer : Except ScanError FlatMatch) : Prop where
  /-- A text that is refused, behind others that compile, is the answer. -/
  refused : ∀ before source after e, sources = before ++ source :: after →
    (∃ ps, CompileTo c before ps) → c.compile source = .error e →
      (∃ code message, e = .badPattern source code message) ∧ answer = .error e
  /-- If all compile, the answer is made of the patterns' own searches. -/
  searched : ∀ ps, CompileTo c sources ps → Found (ownOutcomes ps text start) answer

/-- A search with texts, each of them compiled by itself. -/
def answer (c : Compiler) (sources : List String) (text : ByteArray) (start : Nat) :
    Except ScanError FlatMatch :=
  (sources.mapM c.compile).bind fun ps => (bestOf ps text start).value

theorem mapM_compile_of_compileTo {c : Compiler} {sources : List String} {ps : List Compiled}
    (h : CompileTo c sources ps) : sources.mapM c.compile = .ok ps := by
  induction h with
  | nil => rfl
  | cons hp _ ih => simp [List.mapM_cons, hp, ih, bind, Except.bind, pure, Except.pure]

theorem mapM_compile_of_refused {c : Compiler} {before : List String} {ps : List Compiled}
    (h : CompileTo c before ps) {source : String} {e : ScanError}
    (he : c.compile source = .error e) (after : List String) :
    (before ++ source :: after).mapM c.compile = .error e := by
  induction h with
  | nil => simp [List.mapM_cons, he, bind, Except.bind]
  | cons hp _ ih => simp [List.mapM_cons, hp, ih, bind, Except.bind]

/-- That is what has to be answered. -/
theorem answered_answer (c : Compiler) (sources : List String) (text : ByteArray) (start : Nat) :
    Answered c sources text start (answer c sources text start) where
  refused before source after e hsplit := by
    rintro ⟨ps, hps⟩ he
    refine ⟨Compiler.badPattern_of_compile he, ?_⟩
    rw [answer, hsplit, mapM_compile_of_refused hps he]
    rfl
  searched ps hps := by
    rw [answer, mapM_compile_of_compileTo hps]
    simp only [Except.bind, value_bestOf]
    exact found_of_isMade hps.isMade text start

/-! ## A store in use -/

/-- A text is refused, or finds no room, or is compiled and stored. -/
theorem WellFormed.compile_spec {r : Registry} (wf : WellFormed r) (source : String) :
    (∃ e, r.compiler.compile source = .error e ∧ (r.compile source).1.value = .error e) ∨
    (capacity ≤ r.size ∧ ∃ e, (r.compile source).1.value = .error e) ∨
    ∃ p h, r.compiler.compile source = .ok p ∧ (r.compile source).1.value = .ok h ∧
      Stored r p h (r.compile source).2 := by
  unfold Registry.compile
  cases hc : r.compiler.compile source with
  | error e => exact .inl ⟨e, rfl, rfl⟩
  | ok p =>
      rcases wf.insert_spec p with ⟨-, h, hv, st⟩ | ⟨hfull, he, -⟩
      · exact .inr (.inr ⟨p, h, rfl, hv, st⟩)
      · exact .inr (.inl ⟨hfull, _, he⟩)

/-- A store holds patterns, each under the token at its position, and what it held before. -/
structure StoredEach (r : Registry) (ps : List Compiled) (hs : List Handle) (s : Registry) :
    Prop where
  resolves : Resolves s hs ps
  kept : ∀ k p, r.get? k = some p → s.get? k = some p
  wellFormed : WellFormed s
  compiler : s.compiler = r.compiler
  size : s.size = r.size + ps.length

theorem Stored.cons {r t s : Registry} {p : Compiled} {h : Handle} {ps : List Compiled}
    {hs : List Handle} (st : Stored r p h t) (sts : StoredEach t ps hs s) :
    StoredEach r (p :: ps) (h :: hs) s where
  resolves := by
    have hp : s.get? h = some p := sts.kept h p ((st.get? h).trans (if_pos rfl))
    rw [Resolves, List.map_cons, List.map_cons, hp, show hs.map s.get? = _ from sts.resolves]
  kept k q hq := by
    have hne : k ≠ h := fun he => by
      rw [he, st.fresh] at hq
      cases hq
    exact sts.kept k q ((st.get? k).trans ((if_neg hne).trans hq))
  wellFormed := sts.wellFormed
  compiler := sts.compiler.trans st.compiler
  size := by
    rw [sts.size, st.size, List.length_cons, Nat.add_assoc, Nat.add_comm 1]

theorem value_compileEach_cons (r : Registry) (source : String) (rest : List String) :
    (r.compileEach (source :: rest)).value = (r.compile source).1.value.bind fun h =>
      ((r.compile source).2.compileEach rest).value.map fun (hs, r) => (h :: hs, r) := by
  rw [compileEach, Logged.value_andThen]
  rfl

/-- Texts are refused as they are by themselves, or find no room; else their tokens stand for what
they compile to, and those made before for what they did. -/
theorem WellFormed.compileEach_spec {r : Registry} (wf : WellFormed r) (sources : List String) :
    (∃ e, sources.mapM r.compiler.compile = .error e ∧
      (r.compileEach sources).value = .error e) ∨
    (capacity < r.size + sources.length ∧ ∃ e, (r.compileEach sources).value = .error e) ∨
    ∃ ps hs s, CompileTo r.compiler sources ps ∧ (r.compileEach sources).value = .ok (hs, s) ∧
      StoredEach r ps hs s := by
  induction sources generalizing r with
  | nil => exact .inr (.inr ⟨[], [], r, .nil, rfl, rfl, fun _ _ hp => hp, wf, rfl, rfl⟩)
  | cons source rest ih =>
      rw [value_compileEach_cons, List.mapM_cons, List.length_cons]
      rcases wf.compile_spec source with ⟨e, hc, hv⟩ | ⟨hfull, e, hv⟩ | ⟨p, h, hc, hv, st⟩
      · exact .inl ⟨e, by rw [hc]; rfl, by rw [hv]; rfl⟩
      · exact .inr (.inl ⟨by omega, e, by rw [hv]; rfl⟩)
      · have hgo := ih (r := (r.compile source).2) (wf.insertCompiled _)
        rw [st.compiler, st.size] at hgo
        rw [hc, hv]
        rcases hgo with ⟨e, hm, heach⟩ | ⟨hfull, e, heach⟩ | ⟨ps, hs, s, hps, heach, sts⟩
        · exact .inl ⟨e, by rw [hm]; rfl, by rw [Except.bind, heach]; rfl⟩
        · exact .inr (.inl ⟨by omega, e, by rw [Except.bind, heach]; rfl⟩)
        · exact .inr (.inr ⟨p :: ps, h :: hs, s, .cons hc hps, by rw [Except.bind, heach]; rfl,
            st.cons sts⟩)

/-- Texts that compile and find room are stored, one after the other. -/
theorem WellFormed.compileEach_of_compileTo {r : Registry} (wf : WellFormed r)
    {sources : List String} {ps : List Compiled} (hps : CompileTo r.compiler sources ps)
    (hroom : r.size + sources.length ≤ capacity) :
    ∃ hs s, (r.compileEach sources).value = .ok (hs, s) ∧ StoredEach r ps hs s := by
  have hm := mapM_compile_of_compileTo hps
  rcases wf.compileEach_spec sources with
    ⟨e, hm', -⟩ | ⟨hfull, -⟩ | ⟨ps', hs, s, hps', heach, sts⟩
  · cases hm.symm.trans hm'
  · omega
  · obtain rfl : ps = ps' := Except.ok.inj (hm.symm.trans (mapM_compile_of_compileTo hps'))
    exact ⟨hs, s, heach, sts⟩

/-- What is told of a pattern that was compiled. -/
def compiledEvent (p : Compiled) : Event := .compiled p.source p.engine

/-- A text that is compiled and stored is told of, and nothing else is. -/
theorem events_compile_of_ok {r : Registry} {source : String} {p : Compiled} {h : Handle}
    (hp : r.compiler.compile source = .ok p) (hh : (r.compile source).1.value = .ok h) :
    (r.compile source).1.events = [compiledEvent p] := by
  rw [Registry.compile, hp] at hh ⊢
  simp only [insertCompiled, Registry.insert] at hh ⊢
  split at hh
  · rfl
  · split at hh
    · cases hh
    · next hroom => rw [if_neg hroom]; rfl

/-- Each text is told of when it is compiled, in the order of the list. -/
theorem events_compileEach_of_ok {r : Registry} {sources : List String} {ps : List Compiled}
    (hps : CompileTo r.compiler sources ps) {made : List Handle × Registry}
    (hmade : (r.compileEach sources).value = .ok made) :
    (r.compileEach sources).events = ps.map compiledEvent := by
  induction sources generalizing r ps made with
  | nil => cases hps; rfl
  | cons source rest ih =>
      obtain - | ⟨hp, hrest⟩ := hps
      rw [value_compileEach_cons] at hmade
      cases hv : (r.compile source).1.value with
      | error e =>
          rw [hv] at hmade
          cases hmade
      | ok h =>
          rw [hv, Except.bind] at hmade
          have hcompiler : (r.compile source).2.compiler = r.compiler :=
            compiler_insertCompiled r _
          cases heach : ((r.compile source).2.compileEach rest).value with
          | error e =>
              rw [heach] at hmade
              cases hmade
          | ok later =>
              rw [compileEach, Logged.events_andThen_of_ok hv, events_compile_of_ok hp hv,
                Logged.events_map, ih (hcompiler ▸ hrest) heach]
              rfl

/-- A search with the tokens of texts is answered as the texts are by themselves. -/
theorem WellFormed.findBest_compileEach {r : Registry} (wf : WellFormed r) {sources : List String}
    (hroom : r.size + sources.length ≤ capacity) (text : ByteArray) (start : Nat) :
    ((r.compileEach sources).value.bind fun (hs, s) => (s.findBest hs text start).value) =
      answer r.compiler sources text start := by
  unfold answer
  rcases wf.compileEach_spec sources with
    ⟨e, hm, heach⟩ | ⟨hfull, -⟩ | ⟨ps, hs, s, hps, heach, sts⟩
  · rw [hm, heach]
    rfl
  · omega
  · rw [mapM_compile_of_compileTo hps, heach]
    simp only [Except.bind, findBest, getAll_of_resolves sts.resolves]

end Registry

namespace Scanner

open Registry

/-! ## The three ways -/

theorem value_compileAll_cons (r : Registry) (handles : List Handle) (source : String)
    (rest : List String) :
    (compileAll r handles (source :: rest)).value = match (r.compile source).1.value with
      | .error e => .error e
      | .ok h => (compileAll (r.compile source).2 (h :: handles) rest).value := by
  rw [compileAll]
  generalize r.compile source = compiled
  obtain ⟨⟨value, events⟩, s⟩ := compiled
  cases value with
  | error e => rfl
  | ok h => rfl

/-- A scanner compiles its texts like a store. -/
theorem value_compileAll (r : Registry) (handles : List Handle) (sources : List String) :
    (compileAll r handles sources).value =
      (r.compileEach sources).value.map fun (hs, s) => ⟨s, handles.reverse ++ hs⟩ := by
  induction sources generalizing r handles with
  | nil => simp [compileAll, Registry.compileEach, Except.map]
  | cons source rest ih =>
      rw [value_compileAll_cons, Registry.value_compileEach_cons]
      cases (r.compile source).1.value with
      | error e => rfl
      | ok h =>
          simp only [ih, Except.bind]
          cases ((r.compile source).2.compileEach rest).value with
          | error e => rfl
          | ok made => simp [Except.map]

/-- The tokens of a scanner stand for what its texts compile to. -/
theorem exists_resolves_of_ofPatterns {sources : List String} {s : Settings} {e : Engines}
    {sc : Scanner} (hsc : (ofPatterns sources s e).value = .ok sc) :
    ∃ ps, CompileTo (.ofSettings s e) sources ps ∧ Resolves sc.registry sc.handles ps := by
  unfold ofPatterns at hsc
  split at hsc
  · cases hsc
  · rw [value_compileAll] at hsc
    rcases (wellFormed_ofSettings s e).compileEach_spec sources with
      ⟨why, -, heach⟩ | ⟨-, why, heach⟩ | ⟨ps, hs, r, hps, heach, sts⟩
    · rw [heach] at hsc
      cases hsc
    · rw [heach] at hsc
      cases hsc
    · rw [heach] at hsc
      cases hsc
      exact ⟨ps, hps, sts.resolves⟩

/-- A pattern of a scanner is what one of its texts compiles to. -/
theorem compile_of_mem_handles {sources : List String} {s : Settings} {e : Engines} {sc : Scanner}
    (hsc : (ofPatterns sources s e).value = .ok sc) {k : Handle} (hk : k ∈ sc.handles)
    {p : Compiled} (hp : sc.registry.get? k = some p) :
    ∃ source ∈ sources, (Compiler.ofSettings s e).compile source = .ok p := by
  obtain ⟨ps, hps, hres⟩ := exists_resolves_of_ofPatterns hsc
  have hmem : sc.registry.get? k ∈ sc.handles.map sc.registry.get? := List.mem_map_of_mem hk
  rw [hp, show sc.handles.map _ = _ from hres] at hmem
  have hall : ∀ q ∈ ps, ∃ source ∈ sources, (Compiler.ofSettings s e).compile source = .ok q :=
    hps.forall_iff.mp fun source hsource q hq => ⟨source, hsource, hq⟩
  exact hall p (by simpa using hmem)

end Scanner

namespace Registry

/-- The store made for a search, a scanner, and a store in use that compiles by default settings and
has room for the patterns all give the one answer that the texts have. -/
theorem answered_alike {s : Settings} {e : Engines} {qs : List Request}
    (hdefault : ((ofSettings s e).run qs).2.compiler = .ofSettings {} e) {sources : List String}
    (hroom : ((ofSettings s e).run qs).2.size + sources.length ≤ capacity) (text : ByteArray)
    (start : Nat) :
    ∃ a, Answered (.ofSettings {} e) sources text start a ∧
      (findBestMatch sources text start e).value = a ∧
      ((Scanner.ofPatterns sources {} e).value.bind fun sc => (sc.findBest text start).value) =
        a ∧
      ((((ofSettings s e).run qs).2.compileEach sources).value.bind fun (hs, r) =>
        (r.findBest hs text start).value) = a := by
  have hown : (ofSettings {} e).size + sources.length ≤ capacity := by
    rw [show (ofSettings {} e).size = 0 from rfl]
    omega
  have hfresh := (wellFormed_ofSettings {} e).findBest_compileEach hown text start
  have hused := ((wellFormed_ofSettings s e).run qs).findBest_compileEach hroom text start
  refine ⟨_, answered_answer _ sources text start, ?_, ?_, hdefault ▸ hused⟩
  · rw [findBestMatch, Logged.value_andThen]
    exact hfresh
  rw [show Scanner.ofPatterns sources {} e = Scanner.compileAll (.ofSettings {} e) [] sources
      from rfl, Scanner.value_compileAll]
  rw [show (ofSettings {} e).compiler = .ofSettings {} e from rfl] at hfresh
  rw [← hfresh]
  cases ((ofSettings {} e).compileEach sources).value with
  | error e => rfl
  | ok made => rfl

/-- The search with a store made for it tells of its patterns, and then what their search tells. -/
theorem events_findBestMatch {e : Engines} {sources : List String} {ps : List Compiled}
    (hps : CompileTo (.ofSettings {} e) sources ps) (hroom : sources.length ≤ capacity)
    (text : ByteArray) (start : Nat) : (findBestMatch sources text start e).events =
      ps.map compiledEvent ++ (bestOf ps text start).events := by
  have hown : (ofSettings {} e).size + sources.length ≤ capacity :=
    (Nat.zero_add sources.length).symm ▸ hroom
  obtain ⟨hs, s, heach, sts⟩ :=
    (wellFormed_ofSettings {} e).compileEach_of_compileTo hps hown
  rw [findBestMatch, Logged.events_andThen_of_ok heach, events_compileEach_of_ok hps heach]
  simp only [findBest, getAll_of_resolves sts.resolves]

/-- Requests behind which two slots are free again. -/
def recycled : List Request :=
  [.compile "a", .compile "b", .dispose [⟨0, 0⟩, ⟨1, 0⟩], .reconfigure {}]

/-- Behind them the tokens are those of the two slots, last given up first, in their next
generation. -/
theorem answered_alike_recycled :
    ((((ofSettings { engine := .standard }).run recycled).2.compileEach
      ["bb", "(?<=x)a"]).value.toOption.map Prod.fst = some [⟨1, 1⟩, ⟨0, 1⟩] ∧
    ((ofSettings { engine := .standard }).run recycled).2.compiler = .ofSettings {} ∧
    ((ofSettings { engine := .standard }).run recycled).2.size + 2 ≤ capacity) ∧
    ∃ a, Answered (.ofSettings {}) ["bb", "(?<=x)a"] "xaybb".toUTF8 0 a ∧
      (findBestMatch ["bb", "(?<=x)a"] "xaybb".toUTF8 0).value = a ∧
      ((Scanner.ofPatterns ["bb", "(?<=x)a"] {}).value.bind fun sc =>
        (sc.findBest "xaybb".toUTF8 0).value) = a ∧
      ((((ofSettings { engine := .standard }).run recycled).2.compileEach
        ["bb", "(?<=x)a"]).value.bind fun (hs, r) =>
          (r.findBest hs "xaybb".toUTF8 0).value) = a := by
  have hdefault : ((ofSettings { engine := .standard }).run recycled).2.compiler =
      .ofSettings {} :=
    Compiler.eq_ofSettings_iff.mpr ⟨engines_run _ recycled, by decide +kernel⟩
  have hroom : ((ofSettings { engine := .standard }).run recycled).2.size +
      ["bb", "(?<=x)a"].length ≤ capacity := by decide +kernel
  exact ⟨⟨by decide +kernel, hdefault, hroom⟩, answered_alike hdefault hroom "xaybb".toUTF8 0⟩

end Registry

end Leftmost
