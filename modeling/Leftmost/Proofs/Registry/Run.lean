import Leftmost.Proofs.Registry.Slots

/-!
# Leftmost.Proofs.Registry.Run

Requests to a store of patterns, made one after the other. Looking up and searching change
nothing, so the requests that make a history are those to compile, to give up and to go on with
other settings. Every run keeps a store well formed (`WellFormed.run`), and a token stands for its
pattern until it is given up (`WellFormed.get?_run`).
-/

namespace Leftmost

/-- A request that may change a store. -/
inductive Request where
  | compile (source : String)
  | compileBytes (source : ByteArray)
  | dispose (handles : List Handle)
  | reconfigure (settings : Settings)

/-- The answer to a request: a token or an error where a pattern was given, else nothing. -/
abbrev Reply := Option (Except ScanError Handle)

theorem eq_ok_of_toOption {ε α : Type} {x : Except ε α} {a : α} (h : x.toOption = some a) :
    x = .ok a := by
  cases x with
  | error e => cases h
  | ok b => exact congrArg Except.ok (Option.some.inj h)

/-- What a compiler makes of the pattern of a request, if there is one. -/
def Request.compiled? (c : Compiler) : Request → Option (Except ScanError Compiled)
  | compile source => some (c.compile source)
  | compileBytes source => some (c.compileBytes source)
  | dispose _ | reconfigure _ => none

namespace Registry

/-- Carries out a request. -/
def perform (r : Registry) : Request → Reply × Registry
  | .compile source => (some (r.compile source).1.value, (r.compile source).2)
  | .compileBytes source => (some (r.compileBytes source).1.value, (r.compileBytes source).2)
  | .dispose hs => (none, (r.dispose hs).2)
  | .reconfigure s => (none, r.reconfigure s)

/-- Carries out requests one after the other. -/
def run (r : Registry) : List Request → List Reply × Registry
  | [] => ([], r)
  | q :: qs => ((r.perform q).1 :: ((r.perform q).2.run qs).1, ((r.perform q).2.run qs).2)

theorem WellFormed.insertCompiled {r : Registry} (wf : WellFormed r)
    (compiled : Except ScanError Compiled) : WellFormed (r.insertCompiled compiled).2 := by
  cases compiled with
  | error e => exact wf
  | ok p => exact wf.insert p

theorem WellFormed.perform {r : Registry} (wf : WellFormed r) (q : Request) :
    WellFormed (r.perform q).2 := by
  cases q with
  | compile source => exact wf.insertCompiled _
  | compileBytes source => exact wf.insertCompiled _
  | dispose hs => exact wf.dispose hs
  | reconfigure s =>
      exact ⟨wf.free_nodup, wf.mem_free, wf.live_add_free, wf.slots_le, wf.generation_lt⟩

/-- Every run keeps a store well formed. -/
theorem WellFormed.run {r : Registry} (wf : WellFormed r) (qs : List Request) :
    WellFormed (r.run qs).2 := by
  induction qs generalizing r with
  | nil => exact wf
  | cons q qs ih => exact ih (wf.perform q)

theorem run_cons (r : Registry) (q : Request) (qs : List Request) :
    (r.run (q :: qs)).2 = ((r.perform q).2.run qs).2 := rfl

theorem run_append (r : Registry) (as bs : List Request) :
    r.run (as ++ bs) = ((r.run as).1 ++ ((r.run as).2.run bs).1, ((r.run as).2.run bs).2) := by
  induction as generalizing r with
  | nil => rfl
  | cons q qs ih => simp only [List.cons_append, run, ih]

/-! ## Settings in force -/

/-- Storing a pattern leaves the settings in force. -/
theorem compiler_insertCompiled (r : Registry) (compiled : Except ScanError Compiled) :
    (r.insertCompiled compiled).2.compiler = r.compiler := by
  cases compiled with
  | error e => rfl
  | ok p =>
      simp only [Registry.insertCompiled, Registry.insert]
      repeat' split
      all_goals rfl

/-- Only going on with other settings changes the settings in force. -/
theorem compiler_perform {r : Registry} {q : Request} (hq : ∀ s, q ≠ .reconfigure s) :
    (r.perform q).2.compiler = r.compiler := by
  cases q with
  | compile source => exact compiler_insertCompiled r _
  | compileBytes source => exact compiler_insertCompiled r _
  | dispose hs => exact compiler_dispose r hs
  | reconfigure s => exact absurd rfl (hq s)

theorem compiler_reconfigure (r : Registry) (s : Settings) :
    (r.perform (.reconfigure s)).2.compiler = .ofSettings s r.compiler.engines := rfl

/-- No request changes the engines. -/
theorem engines_run (r : Registry) (qs : List Request) :
    (r.run qs).2.compiler.engines = r.compiler.engines := by
  induction qs generalizing r with
  | nil => rfl
  | cons q qs ih =>
      rw [run_cons, ih]
      by_cases hq : ∃ s, q = .reconfigure s
      · obtain ⟨s, rfl⟩ := hq
        rw [compiler_reconfigure]
        rfl
      · rw [compiler_perform (not_exists.mp hq)]

/-! ## Tokens in use -/

/-- What a compiler gave leaves every token that stands for a pattern as it is, and the token
answered stands for one. -/
theorem WellFormed.get?_insertCompiled {r : Registry} (wf : WellFormed r)
    (compiled : Except ScanError Compiled) :
    (∀ k p, r.get? k = some p → (r.insertCompiled compiled).2.get? k = some p) ∧
      ∀ k, (r.insertCompiled compiled).1.value = .ok k →
        ∃ p, (r.insertCompiled compiled).2.get? k = some p := by
  cases compiled with
  | error e => exact ⟨fun _ _ hp => hp, fun _ hk => by cases hk⟩
  | ok p =>
      rcases wf.insert_spec p with ⟨-, h, hv, st⟩ | ⟨-, hv, hs⟩
      · refine ⟨fun k p' hp => ?_, fun k hk => ⟨p, ?_⟩⟩
        · have hne : k ≠ h := fun he => by
            rw [he, st.fresh] at hp
            cases hp
          exact (st.get? k).trans ((if_neg hne).trans hp)
        · obtain rfl : h = k := Except.ok.inj (hv.symm.trans hk)
          exact (st.get? h).trans (if_pos rfl)
      · refine ⟨fun k p' hp => ?_, fun k hk => ?_⟩
        · rw [show (r.insertCompiled (.ok p)).2 = r from hs]
          exact hp
        · cases hv.symm.trans hk

/-- A token answered stands for a pattern. -/
theorem WellFormed.get?_of_answered {r : Registry} (wf : WellFormed r) {q : Request} {h : Handle}
    (hq : (r.perform q).1 = some (.ok h)) : ∃ p, (r.perform q).2.get? h = some p := by
  cases q with
  | compile source => exact (wf.get?_insertCompiled _).2 h (Option.some.inj hq)
  | compileBytes source => exact (wf.get?_insertCompiled _).2 h (Option.some.inj hq)
  | dispose hs => cases hq
  | reconfigure s => cases hq

/-- A token stands for its pattern until it is given up. -/
theorem WellFormed.get?_perform {r : Registry} (wf : WellFormed r) {q : Request} {h : Handle}
    {p : Compiled} (hp : r.get? h = some p) (hq : ∀ ks, q = .dispose ks → h ∉ ks) :
    (r.perform q).2.get? h = some p := by
  cases q with
  | compile source => exact (wf.get?_insertCompiled _).1 h p hp
  | compileBytes source => exact (wf.get?_insertCompiled _).1 h p hp
  | dispose ks => exact (get?_dispose r ks h).trans ((if_neg (hq ks rfl)).trans hp)
  | reconfigure s => exact hp

theorem WellFormed.get?_of_insertCompiled {r : Registry} (wf : WellFormed r)
    {compiled : Except ScanError Compiled} {h : Handle} {p : Compiled}
    (hp : (r.insertCompiled compiled).2.get? h = some p) :
    (r.insertCompiled compiled).1.value = .ok h ∨ r.get? h = some p := by
  cases compiled with
  | error e => exact .inr hp
  | ok new =>
      rcases wf.insert_spec new with ⟨-, k, hv, st⟩ | ⟨-, -, hs⟩
      · have hk := (st.get? h).symm.trans hp
        by_cases hkh : h = k
        · exact .inl (hkh ▸ hv)
        · rw [if_neg hkh] at hk
          exact .inr hk
      · rw [show (r.insertCompiled (.ok new)).2 = r from hs] at hp
        exact .inr hp

/-- The tokens that stand for patterns are the one answered, and those that stood for patterns
before and are not given up. -/
theorem WellFormed.exists_get?_perform_iff {r : Registry} (wf : WellFormed r) (q : Request)
    (h : Handle) : (∃ p, (r.perform q).2.get? h = some p) ↔
      (r.perform q).1 = some (.ok h) ∨
        (∃ p, r.get? h = some p) ∧ ∀ ks, q = .dispose ks → h ∉ ks := by
  constructor
  · rintro ⟨p, hp⟩
    cases q with
    | compile source =>
        exact (wf.get?_of_insertCompiled hp).imp (congrArg some) fun hp => ⟨⟨p, hp⟩, by simp⟩
    | compileBytes source =>
        exact (wf.get?_of_insertCompiled hp).imp (congrArg some) fun hp => ⟨⟨p, hp⟩, by simp⟩
    | dispose ks =>
        have hk := (get?_dispose r ks h).symm.trans hp
        by_cases hmem : h ∈ ks
        · rw [if_pos hmem] at hk
          cases hk
        · rw [if_neg hmem] at hk
          exact .inr ⟨⟨p, hk⟩, by rintro ks' ⟨⟩; exact hmem⟩
    | reconfigure s => exact .inr ⟨⟨p, hp⟩, by simp⟩
  · rintro (hanswered | ⟨⟨p, hp⟩, hkept⟩)
    · exact wf.get?_of_answered hanswered
    · exact ⟨p, wf.get?_perform hp hkept⟩

theorem WellFormed.get?_run {r : Registry} (wf : WellFormed r) {qs : List Request} {h : Handle}
    {p : Compiled} (hp : r.get? h = some p) (hqs : ∀ ks, Request.dispose ks ∈ qs → h ∉ ks) :
    (r.run qs).2.get? h = some p := by
  induction qs generalizing r with
  | nil => exact hp
  | cons q qs ih =>
      refine ih (wf.perform q) (wf.get?_perform hp fun ks hq => hqs ks ?_) fun ks hks => hqs ks ?_
      · rw [hq]
        exact List.mem_cons_self
      · exact List.mem_cons_of_mem q hks

end Registry

end Leftmost
