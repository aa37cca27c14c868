import Leftmost.Proofs.Scanner.Start
import Leftmost.Proofs.Settings.Checked

/-!
# Leftmost.Proofs.Scanner.Built

What comes of the texts that a scanner is made for.  They are compiled one after the other, and the
first one that is refused, or finds no room, is the end of it; the texts that are compiled are noted
on the way:

* `run_compileAllBy` — noting the texts changes nothing;
* `compileEach_append` — behind texts that are stored, a pass goes on in the store they leave;
* `compiled_or_reached` — either all texts compile and find room, or a pass gets to one that does
  not;
* `scans_of_resolves` — a scanner whose tokens stand for what texts compile to finds what the texts
  do;
* `builds_ofPatterns` — hence what is made of any texts by any settings.
-/

namespace Leftmost

/-- Compiles a text, and notes it. -/
def Compiler.compileNoted (c : Compiler) (source : String) :
    StateM (List String) (Except ScanError Compiled) := do
  modify (· ++ [source])
  return c.compile source

namespace Registry

/-! ## How far a pass gets -/

/-- The texts that a pass compiles, which ends with the first that is not stored. -/
def tried (r : Registry) : List String → List String
  | [] => []
  | source :: rest => source :: match (r.compile source).1.value with
    | .error _ => []
    | .ok _ => (r.compile source).2.tried rest

/-- Behind texts that are stored, a pass goes on in the store they leave. -/
theorem compileEach_append {r s : Registry} {before : List String} {hs : List Handle}
    (h : (r.compileEach before).value = .ok (hs, s)) (rest : List String) :
    (r.compileEach (before ++ rest)).value =
        (s.compileEach rest).value.map (fun (ks, t) => (hs ++ ks, t)) ∧
      r.tried (before ++ rest) = before ++ s.tried rest := by
  induction before generalizing r hs with
  | nil =>
      cases h
      refine ⟨?_, rfl⟩
      rw [List.nil_append]
      cases (s.compileEach rest).value <;> rfl
  | cons source before ih =>
      rw [List.cons_append, value_compileEach_cons, tried]
      rw [value_compileEach_cons] at h
      cases hv : (r.compile source).1.value with
      | error e =>
          rw [hv] at h
          cases h
      | ok k =>
          rw [hv, Except.bind] at h
          cases hmade : ((r.compile source).2.compileEach before).value with
          | error e =>
              rw [hmade] at h
              cases h
          | ok made =>
              rw [hmade] at h
              cases h
              obtain ⟨heach, htried⟩ := ih hmade
              refine ⟨?_, congrArg (source :: ·) htried⟩
              simp only [Except.bind, heach]
              cases (made.2.compileEach rest).value <;> rfl

/-- The texts before one in a list compile, and there is room for so many of them. -/
structure Reaches (c : Compiler) (room : Nat) (sources before : List String) (source : String) :
    Prop where
  split : ∃ after, sources = before ++ source :: after
  compile : ∃ ps, CompileTo c before ps
  room : before.length ≤ room

theorem Reaches.cons {c : Compiler} {room : Nat} {sources before : List String} {source : String}
    (h : Reaches c room sources before source) {first : String} {p : Compiled}
    (hp : c.compile first = .ok p) :
    Reaches c (room + 1) (first :: sources) (first :: before) source where
  split := h.split.imp fun _ => congrArg (first :: ·)
  compile := h.compile.imp' (p :: ·) fun _ => .cons hp
  room := Nat.succ_le_succ h.room

/-- Either all texts compile and there is room for them, or a pass gets to one that is refused, or
to one that there is no room for. -/
theorem compiled_or_reached (c : Compiler) (room : Nat) (sources : List String) :
    (∃ ps, CompileTo c sources ps ∧ sources.length ≤ room) ∨
    (∃ before source e, Reaches c room sources before source ∧ c.compile source = .error e) ∨
    ∃ before source p, Reaches c room sources before source ∧ before.length = room ∧
      c.compile source = .ok p := by
  induction sources generalizing room with
  | nil => exact .inl ⟨[], .nil, Nat.zero_le room⟩
  | cons source rest ih =>
      have hhead : Reaches c room (source :: rest) [] source :=
        ⟨⟨rest, rfl⟩, ⟨[], .nil⟩, Nat.zero_le room⟩
      cases hc : c.compile source with
      | error e => exact .inr (.inl ⟨[], source, e, hhead, hc⟩)
      | ok p =>
          cases room with
          | zero => exact .inr (.inr ⟨[], source, p, hhead, rfl, hc⟩)
          | succ room =>
              rcases ih room with ⟨ps, hps, hle⟩ | ⟨before, x, e, hx, he⟩ |
                ⟨before, x, q, hx, hfull, hq⟩
              · exact .inl ⟨p :: ps, .cons hc hps, Nat.succ_le_succ hle⟩
              · exact .inr (.inl ⟨source :: before, x, e, hx.cons hc, he⟩)
              · exact .inr (.inr ⟨source :: before, x, q, hx.cons hc, congrArg (· + 1) hfull, hq⟩)

end Registry

namespace Scanner

open Registry

/-! ## Noting the texts -/

section

variable {m : Type → Type} [Monad m]

/-- Compiles patterns one after the other, each as it is told, with whatever effects that has. -/
def compileAllBy (compile : Compiler → String → m (Except ScanError Compiled)) (r : Registry)
    (handles : List Handle) : List String → m (Logged (Except ScanError Scanner))
  | [] => return { value := .ok ⟨r, handles.reverse⟩, events := [.scannerReady handles.length] }
  | source :: rest => do
    let (stored, r) := r.insertCompiled (← compile r.compiler source)
    match stored.value with
    | .ok h =>
      let later ← compileAllBy compile r (h :: handles) rest
      return { later with events := stored.events ++ later.events }
    | .error e =>
      return { value := .error e, events := stored.events ++ (r.dispose handles.reverse).1.events }

/-- A scanner whose patterns are compiled as it is told. -/
def ofPatternsBy (compile : Compiler → String → m (Except ScanError Compiled))
    (sources : List String) (s : Settings) (engines : Engines) :
    m (Logged (Except ScanError Scanner)) :=
  match s.validate with
  | .error message => return { value := .error (.badSettings message), events := [] }
  | .ok () => compileAllBy compile (.ofSettings s engines) [] sources

end

/-- What is made of texts, and the texts that are compiled for it. -/
def notedPass (sources : List String) (s : Settings) (engines : Engines := .builtIn) :
    Logged (Except ScanError Scanner) × List String :=
  (ofPatternsBy Compiler.compileNoted sources s engines).run []

/-- Noting the texts changes nothing. -/
theorem run_compileAllBy (r : Registry) (handles : List Handle) (sources seen : List String) :
    (compileAllBy Compiler.compileNoted r handles sources).run seen =
      (compileAll r handles sources, seen ++ r.tried sources) := by
  induction sources generalizing r handles seen with
  | nil => exact congrArg _ (List.append_nil seen).symm
  | cons source rest ih =>
      simp only [compileAllBy, compileAll, tried, Registry.compile, Compiler.compileNoted,
        bind_assoc, pure_bind, StateT.run_bind, StateT.run_modify]
      obtain ⟨⟨value, events⟩, s⟩ := r.insertCompiled (r.compiler.compile source)
      cases value with
      | error e => rfl
      | ok h =>
          simp only [StateT.run_bind, ih, List.append_assoc, List.singleton_append]
          rfl

/-- The texts that are noted are those that a new store compiles, if the settings are in order. -/
theorem notedPass_spec (sources : List String) (s : Settings) (engines : Engines) :
    (notedPass sources s engines).1 = ofPatterns sources s engines ∧
      (notedPass sources s engines).2 = match s.validate with
        | .error _ => []
        | .ok () => (Registry.ofSettings s engines).tried sources := by
  unfold notedPass ofPatternsBy ofPatterns
  cases s.validate with
  | error message => exact ⟨rfl, rfl⟩
  | ok _ =>
      simp only [run_compileAllBy, List.nil_append]
      exact ⟨trivial, trivial⟩

/-! ## A scanner of texts -/

/-- What the text at a position finds, compiled by itself. -/
def FoundAt (c : Compiler) (sources : List String) (text : ByteArray) (start index : Nat)
    (reg : Region) : Prop :=
  ∃ source p, sources[index]? = some source ∧ c.compile source = .ok p ∧
    p.search text (min start text.size) text.size = .ok (some reg)

/-- What a scanner of texts has to be. -/
structure Scans (c : Compiler) (sources : List String) (sc : Scanner) : Prop where
  size : sc.size = sources.length
  /-- It has the texts in order, those that are repeated included. -/
  texts : sc.sources = sources
  answered : ∀ text start, Answered c sources text start (sc.findBest text start).value
  /-- A match with a position is the match of the text there. -/
  findBest : ∀ text start m, (sc.findBest text start).value = .ok m → m.isMatch = true →
    ∃ reg, FoundAt c sources text start m.index reg ∧ m = .ofRegion reg m.index
  findNext : ∀ text start m, (sc.findNext text start).value = .ok (.ok (some m)) →
    ∃ reg, FoundAt c sources text start m.index reg ∧
      ScanMatch.ofFlat? (.ofRegion reg m.index) id = .ok (some m)
  findNextUnits : ∀ (t : IndexedText) start m,
    (sc.findNextUnits t start).value = .ok (.ok (some m)) →
      ∃ reg, FoundAt c sources t.bytes (byteStart t start) m.index reg ∧
        ScanMatch.ofFlat? (.ofRegion reg m.index) (unitOf t) = .ok (some m)

section

variable {c : Compiler} {sources : List String} {ps : List Compiled} {sc : Scanner}
  (hps : CompileTo c sources ps) (hres : Resolves sc.registry sc.handles ps)
include hps hres

theorem sources_of_resolves : sc.sources = sources := by
  have hsource : sc.registry.source? = Option.map (·.source) ∘ sc.registry.get? := rfl
  have hsome : Option.map (·.source) ∘ some = some ∘ Compiled.source := rfl
  rw [Scanner.sources, hsource, ← List.filterMap_map, show sc.handles.map _ = _ from hres,
    List.filterMap_map, hsome, List.filterMap_eq_map]
  exact hps.map_source

theorem foundAt_of_resolves {text : ByteArray} {start index : Nat} {k : Handle}
    (hk : sc.handles[index]? = some k) {p : Compiled} (hp : sc.registry.get? k = some p)
    {reg : Region} (hsearch : p.search text (min start text.size) text.size = .ok (some reg)) :
    FoundAt c sources text start index reg := by
  obtain ⟨q, hq, hkq⟩ := hres.patternAt hk
  obtain rfl : p = q := Option.some.inj (hp.symm.trans hkq)
  obtain ⟨source, hsource, hc⟩ := hps.textAt hq
  exact ⟨source, p, hsource, hc, hsearch⟩

/-- A scanner whose tokens stand for what texts compile to finds what the texts do. -/
theorem scans_of_resolves : Scans c sources sc where
  size := by rw [Scanner.size, ← hres.length_eq, hps.length_eq]
  texts := sources_of_resolves hps hres
  answered text start := by
    have hbest : (sc.findBest text start).value = answer c sources text start := by
      rw [answer, mapM_compile_of_compileTo hps, Scanner.findBest, Registry.findBest,
        getAll_of_resolves hres]
      rfl
    exact hbest ▸ answered_answer c sources text start
  findBest text start m hm hmatch := by
    obtain ⟨k, p, reg, hk, hp, hsearch, hflat⟩ := exists_winner_of_findBest hm hmatch
    exact ⟨reg, foundAt_of_resolves hps hres hk hp hsearch, hflat⟩
  findNext text start m hm := by
    obtain ⟨k, p, reg, hk, hp, hsearch, hflat⟩ := exists_region_of_ofFlat hm
    exact ⟨reg, foundAt_of_resolves hps hres hk hp hsearch, hflat⟩
  findNextUnits t start m hm := by
    obtain ⟨k, p, reg, hk, hp, hsearch, hflat⟩ := exists_winner_of_findNextUnits hm
    exact ⟨reg, foundAt_of_resolves hps hres hk hp hsearch, hflat⟩

end

/-! ## Any texts and settings -/

/-- What has to be made of texts. -/
structure Builds (sources : List String) (s : Settings) (engines : Engines) : Prop where
  /-- Noting the texts that are compiled changes nothing. -/
  noted : (notedPass sources s engines).1 = ofPatterns sources s engines
  /-- Settings are refused exactly if a limit is 0. -/
  badSettings_iff :
    (∃ message, (ofPatterns sources s engines).value = .error (.badSettings message)) ↔
      s.HasZeroLimit
  /-- No text is compiled for settings that are refused. -/
  untried : s.HasZeroLimit → (notedPass sources s engines).2 = []
  /-- With other settings the first text that is refused is told, and none behind it compiled. -/
  refused : ¬s.HasZeroLimit → ∀ before source e,
    Reaches (.ofSettings s engines) capacity sources before source →
    (Compiler.ofSettings s engines).compile source = .error e →
      (∃ code message, e = .badPattern source code message) ∧
      (ofPatterns sources s engines).value = .error e ∧
      (notedPass sources s engines).2 = before ++ [source]
  /-- If all compile and there is room for them, they are searched together. -/
  compiled : ¬s.HasZeroLimit →
    (∃ ps, CompileTo (.ofSettings s engines) sources ps) → sources.length ≤ capacity →
      (∃ sc, (ofPatterns sources s engines).value = .ok sc ∧
        Scans (.ofSettings s engines) sources sc) ∧
      (notedPass sources s engines).2 = sources
  /-- A text that there is no room for ends it like one that is refused. -/
  full : ¬s.HasZeroLimit → ∀ before source p,
    Reaches (.ofSettings s engines) capacity sources before source → before.length = capacity →
    (Compiler.ofSettings s engines).compile source = .ok p →
      (ofPatterns sources s engines).value =
        .error (.badArgument s!"too many live patterns (limit {capacity})") ∧
      (notedPass sources s engines).2 = before ++ [source]

section

variable {s : Settings} {engines : Engines} (hvalid : s.validate = .ok ())
include hvalid

theorem value_ofPatterns (sources : List String) : (ofPatterns sources s engines).value =
    ((Registry.ofSettings s engines).compileEach sources).value.map fun (hs, r) => ⟨r, hs⟩ := by
  rw [ofPatterns, hvalid]
  exact value_compileAll (.ofSettings s engines) [] sources

theorem notedPass_snd (sources : List String) :
    (notedPass sources s engines).2 = (Registry.ofSettings s engines).tried sources := by
  rw [(notedPass_spec sources s engines).2, hvalid]

/-- A pass that gets to a text ends with it if the store that it has by then does not take it. -/
theorem exists_store_of_reaches {sources before : List String} {source : String}
    (h : Reaches (.ofSettings s engines) capacity sources before source) :
    ∃ r : Registry, WellFormed r ∧ r.compiler = .ofSettings s engines ∧ r.size = before.length ∧
      ∀ e, (r.compile source).1.value = .error e →
        (ofPatterns sources s engines).value = .error e ∧
          (notedPass sources s engines).2 = before ++ [source] := by
  obtain ⟨after, rfl⟩ := h.split
  obtain ⟨ps, hps⟩ := h.compile
  have hroom : (Registry.ofSettings s engines).size + before.length ≤ capacity :=
    (Nat.zero_add before.length).symm ▸ h.room
  obtain ⟨hs, r, hbefore, sts⟩ :=
    (wellFormed_ofSettings s engines).compileEach_of_compileTo hps hroom
  refine ⟨r, sts.wellFormed, sts.compiler, ?_, fun e he => ?_⟩
  · rw [sts.size, hps.length_eq]
    exact Nat.zero_add _
  · obtain ⟨heach, htried⟩ := compileEach_append hbefore (source :: after)
    rw [value_ofPatterns hvalid, notedPass_snd hvalid, heach, htried,
      value_compileEach_cons, tried, he]
    exact ⟨rfl, rfl⟩

theorem refused_of_reaches {sources before : List String} {source : String}
    (h : Reaches (.ofSettings s engines) capacity sources before source) {e : ScanError}
    (he : (Compiler.ofSettings s engines).compile source = .error e) :
    (ofPatterns sources s engines).value = .error e ∧
      (notedPass sources s engines).2 = before ++ [source] := by
  obtain ⟨r, -, hcompiler, -, hstop⟩ := exists_store_of_reaches hvalid h
  refine hstop e ?_
  rw [Registry.compile, hcompiler, he]
  rfl

theorem full_of_reaches {sources before : List String} {source : String}
    (h : Reaches (.ofSettings s engines) capacity sources before source)
    (hfull : before.length = capacity) {p : Compiled}
    (hp : (Compiler.ofSettings s engines).compile source = .ok p) :
    (ofPatterns sources s engines).value =
        .error (.badArgument s!"too many live patterns (limit {capacity})") ∧
      (notedPass sources s engines).2 = before ++ [source] := by
  obtain ⟨r, wf, hcompiler, hsize, hstop⟩ := exists_store_of_reaches hvalid h
  refine hstop _ ?_
  rw [Registry.compile, hcompiler, hp]
  rcases wf.insert_spec p with ⟨hlt, -⟩ | ⟨-, hv, -⟩
  · omega
  · exact hv

theorem compiled_of_compileTo {sources : List String} {ps : List Compiled}
    (hps : CompileTo (.ofSettings s engines) sources ps) (hroom : sources.length ≤ capacity) :
    (∃ sc, (ofPatterns sources s engines).value = .ok sc ∧
        Scans (.ofSettings s engines) sources sc) ∧
      (notedPass sources s engines).2 = sources := by
  have hown : (Registry.ofSettings s engines).size + sources.length ≤ capacity :=
    (Nat.zero_add sources.length).symm ▸ hroom
  obtain ⟨hs, r, heach, sts⟩ := (wellFormed_ofSettings s engines).compileEach_of_compileTo hps hown
  refine ⟨⟨⟨r, hs⟩, ?_, scans_of_resolves hps sts.resolves⟩, ?_⟩
  · rw [value_ofPatterns hvalid, heach]
    rfl
  · have htried := (compileEach_append heach []).2
    rwa [tried, List.append_nil, ← notedPass_snd hvalid] at htried

/-- Settings that are in order are not refused. -/
theorem value_ofPatterns_ne_badSettings (sources : List String) (message : String) :
    (ofPatterns sources s engines).value ≠ .error (.badSettings message) := by
  intro hbad
  rcases compiled_or_reached (.ofSettings s engines) capacity sources with
    ⟨ps, hps, hroom⟩ | ⟨before, source, e, hreach, he⟩ | ⟨before, source, p, hreach, hfull, hp⟩
  · obtain ⟨⟨sc, hsc, -⟩, -⟩ := compiled_of_compileTo hvalid hps hroom
    cases hbad.symm.trans hsc
  · obtain ⟨code, why, rfl⟩ := Compiler.badPattern_of_compile he
    cases hbad.symm.trans (refused_of_reaches hvalid hreach he).1
  · cases hbad.symm.trans (full_of_reaches hvalid hreach hfull hp).1

end

/-- Settings with a limit of 0 are refused.  With others the texts are compiled, up to the first
that is refused or that there is no room for; if there is none, they make a scanner that finds what
they do. -/
theorem builds_ofPatterns (sources : List String) (s : Settings) (engines : Engines) :
    Builds sources s engines := by
  obtain ⟨hnoted, htexts⟩ := notedPass_spec sources s engines
  rcases s.validate_spec with ⟨hzero, message, hm⟩ | ⟨hpos, hvalid⟩
  · have hvalue : (ofPatterns sources s engines).value = .error (.badSettings message) := by
      rw [ofPatterns, hm]
    exact {
      noted := hnoted
      badSettings_iff := iff_of_true ⟨message, hvalue⟩ hzero
      untried := fun _ => by rw [htexts, hm]
      refused := fun hpos => absurd hzero hpos
      compiled := fun hpos => absurd hzero hpos
      full := fun hpos => absurd hzero hpos }
  · exact {
      noted := hnoted
      badSettings_iff := iff_of_false
        (fun ⟨message, hbad⟩ => value_ofPatterns_ne_badSettings hvalid sources message hbad) hpos
      untried := fun hzero => absurd hzero hpos
      refused := fun _ before source e hreach he =>
        ⟨Compiler.badPattern_of_compile he, refused_of_reaches hvalid hreach he⟩
      compiled := fun _ ⟨ps, hps⟩ hroom => compiled_of_compileTo hvalid hps hroom
      full := fun _ before source p hreach hfull hp => full_of_reaches hvalid hreach hfull hp }

/-- The text that is refused is the last that is compiled. -/
example : (notedPass ["a", "b", "(", "c", ")"] {}).2 = ["a", "b", "("] := by decide +kernel

end Scanner

end Leftmost
