import Leftmost.Proofs.Boundary.Fault
import Leftmost.Proofs.Settings.Checked

/-!
# Leftmost.Proofs.Boundary.Frame

What a call that fails leaves alone: all but the code kept, in the session and at its caller's.  The
settings in force are therefore changed by configurations that succeed and by nothing else:

* `Storage.put` — what becomes of a caller's storage;
* `perform_failed_iff` — a call answers -1 exactly if it fails, and then its code is all that is new;
* `compiler_perform_iff` — only a configuration that succeeds changes the settings in force;
* `keepsOnFailure_after` — what holds in a session after any calls.
-/

namespace Leftmost

namespace Session

theorem settingsAt?_validate {json : Option ByteArray} {settings : Settings}
    (h : settingsAt? json = some settings) : settings.validate = .ok () := by
  unfold settingsAt? at h
  obtain ⟨bytes, -, h⟩ := Option.bind_eq_some_iff.mp h
  obtain ⟨text, -, h⟩ := Option.bind_eq_some_iff.mp h
  exact Settings.validate_of_read (eq_ok_of_toOption h)

/-! ## A caller's storage -/

/-- Where a caller has the token of a pattern and the result of a search written. -/
structure Storage where
  token : UInt64
  result : Nat × Option (Array Offset) × Nat

/-- What a call writes takes the place of what was there. -/
def Storage.put (m : Storage) : Option Written → Storage
  | none => m
  | some (.token raw) => { m with token := raw }
  | some (.best result) => { m with result }

/-! ## Failures -/

/-- A call answers -1 exactly if it fails. Then nothing is written, and the code is all that is
new. -/
theorem perform_failed_iff {s : Session} (wf : s.registry.WellFormed) {c : Call}
    {w : Option Written} : (s.perform c).1 = .answered .failed w ↔
      w = none ∧ ∃ code, Fails s c code ∧
        s.perform c = (.answered .failed none, { s with lastError := code.number }) := by
  constructor
  · intro h
    by_cases hfails : ∃ code, Fails s c code
    · obtain ⟨code, hcode⟩ := hfails
      have hs := perform_of_fails wf hcode
      rw [hs] at h
      cases h
      exact ⟨rfl, code, hcode, hs⟩
    · obtain ⟨⟨w', hw'⟩, -⟩ := perform_of_not_fails wf (.of_reply h) (not_exists.mp hfails)
      rw [hw'] at h
      cases h
  · rintro ⟨rfl, code, -, hs⟩
    rw [hs]

/-! ## Settings in force -/

/-- A call that succeeds to configure. -/
def Visit.Configures (v : Visit) (settings : Settings) : Prop :=
  v.reply = .answered .succeeded none ∧
    ∃ json, v.call = .configure json ∧ settingsAt? json = some settings

theorem Visit.Configures.validate {v : Visit} {settings : Settings} (h : v.Configures settings) :
    settings.validate = .ok () := by
  obtain ⟨-, json, -, hread⟩ := h
  exact settingsAt?_validate hread

theorem configures_iff {s : Session} {c : Call} {settings : Settings} :
    Visit.Configures ⟨s, c⟩ settings ↔ c.request? = some (.reconfigure settings) := by
  rw [Call.request?_eq_reconfigure_iff]
  refine ⟨And.right, ?_⟩
  rintro ⟨json, rfl, hread⟩
  exact ⟨by rw [Visit.reply, perform_configure, hread], json, rfl, hread⟩

/-- Only a configuration that succeeds changes the settings in force. -/
theorem compiler_perform_iff {s : Session} (c : Call) (k : Compiler) :
    (s.perform c).2.registry.compiler = k ↔
      (∃ settings, Visit.Configures ⟨s, c⟩ settings ∧
          .ofSettings settings s.registry.compiler.engines = k) ∨
        s.registry.compiler = k ∧ ¬∃ settings, Visit.Configures ⟨s, c⟩ settings := by
  simp only [configures_iff, registry_perform]
  cases c.request? with
  | none => simp
  | some q =>
      cases q with
      | reconfigure settings => simp [Registry.perform, Registry.reconfigure]
      | _ => simp [Registry.compiler_perform]

/-- The settings in force are those of the last configuration that succeeded, the defaults if there
is none, and they are in order. -/
theorem settings_after (e : Engines) (calls : List Call) :
    ∃ settings, ((initial e).after calls).registry.compiler = .ofSettings settings e ∧
      settings.validate = .ok () ∧
      (Since (fun v => v.Configures settings) (fun v => ∃ t, v.Configures t)
          ((initial e).visits calls) ∨
        settings = {} ∧ ∀ v ∈ (initial e).visits calls, ¬∃ t, v.Configures t) := by
  have hwhen := (iff_since_after (f := fun s =>
      s.registry.compiler = ((initial e).after calls).registry.compiler)
    (P := fun v => ∃ settings, v.Configures settings ∧
      .ofSettings settings v.session.registry.compiler.engines =
        ((initial e).after calls).registry.compiler)
    (Q := fun v => ∃ settings, v.Configures settings)
    (fun _ c _ => compiler_perform_iff c _) (wellFormed_initial e) calls).mp rfl
  rcases hwhen with ⟨earlier, v, later, hv, ⟨settings, hset, hforce⟩, hlater⟩ | ⟨hforce, hnone⟩
  · -- The engines are those of the first session all the time.
    have hengines : v.session.registry.compiler.engines = e :=
      (Compiler.eq_ofSettings_iff.mp hforce.symm).1.symm.trans (engines_after (initial e) calls)
    rw [hengines] at hforce
    exact ⟨settings, hforce.symm, hset.validate, .inl ⟨earlier, v, later, hv, hset, hlater⟩⟩
  · exact ⟨{}, hforce.symm, Settings.validate_default, .inr ⟨rfl, hnone⟩⟩

/-! ## Any calls -/

/-- What a session keeps when a call fails, and when a search does. -/
structure KeepsOnFailure (e : Engines) (history : List Visit) (s : Session) : Prop where
  /-- A call that answers -1 leaves its code. All else in the session is as before, and so is its
  caller's storage. -/
  failed : ∀ c w, (s.perform c).1 = .answered .failed w →
    (∃ code, Fails s c code ∧ (s.perform c).2 = { s with lastError := code.number }) ∧
      ∀ m : Storage, m.put w = m
  /-- A search answers -1 and leaves a code exactly if that is the code it fails with. -/
  findBest_failed : ∀ q code,
    s.perform (.findBest q) = (.answered .failed none, { s with lastError := code.number }) ↔
      q.Fails s.registry code
  /-- A search that fails with no code answers 0, and only its result is new. -/
  findBest_succeeded : ∀ q, (∀ code, ¬q.Fails s.registry code) →
    ∃ best, s.perform (.findBest q) = (.answered .succeeded (some (.best best)), s)
  /-- The settings in force are those of the last configuration that succeeded, the defaults if
  there is none, and they are in order. -/
  settings : ∃ settings, s.registry.compiler = .ofSettings settings e ∧
    settings.validate = .ok () ∧
    (Since (fun v => v.Configures settings) (fun v => ∃ t, v.Configures t) history ∨
      settings = {} ∧ ∀ v ∈ history, ¬∃ t, v.Configures t)

/-- After any calls from outside a call that fails changes nothing but the code kept; a search fails
with the first fault in the order of `Query.Fails`. -/
theorem keepsOnFailure_after (e : Engines) (calls : List Call) :
    KeepsOnFailure e ((initial e).visits calls) ((initial e).after calls) where
  failed c w h := by
    obtain ⟨rfl, code, hcode, hs⟩ :=
      (perform_failed_iff (wellFormed_after (wellFormed_initial e) calls)).mp h
    exact ⟨⟨code, hcode, by rw [hs]⟩, fun m => rfl⟩
  findBest_failed := findBest_failed_iff _
  findBest_succeeded _ := perform_findBest_of_not_fails _
  settings := settings_after e calls

end Session

end Leftmost
