import Leftmost.Boundary
import Leftmost.Proofs.Registry.Run
import Mathlib.Data.List.Induction

/-!
# Leftmost.Proofs.Boundary.Run

Calls from outside, made one after the other.  A call is kept together with the session that it
comes to (`Visit`), so that a history can be asked what each call found and gave.

* `registry_perform`, `registry_after` — of all calls only those that carry a request reach the
  store, and they leave it as the requests do;
* `Since` — something happened in a history and nothing has undone it since;
* `iff_since_after` — what each single call makes true, undoes or leaves is after any calls true
  since one of them.
-/

namespace Leftmost

namespace Session

/-! ## Calls -/

/-- What a search is called with. -/
structure Query where
  patterns : Option (List UInt64)
  count : Int
  text : Option ByteArray
  length : Int
  start : Int
  hasOutput : Bool

/-- A call from outside. -/
inductive Call where
  | compile (pattern : Option ByteArray) (hasOutput : Bool)
  | dispose (patterns : Option (List UInt64)) (count : Int)
  | findBest (q : Query)
  | configure (json : Option ByteArray)
  | readError
  | recordError (code : ErrorCode)

/-- What a call writes where its caller has made room. -/
inductive Written where
  | token (raw : UInt64)
  | best (result : Nat × Option (Array Offset) × Nat)

/-- What a caller gets. -/
inductive Reply where
  | answered (a : Answer) (written : Option Written)
  | message (text : ByteArray)
  | nothing

/-- The reply to a call, with what it writes put as `written` has it. -/
def replied {α : Type} (written : α → Option Written) (concluded : Concluded α) :
    Logged Reply × Session :=
  (concluded.1.map fun (a, w) => .answered a (w.bind written), concluded.2)

/-- Carries out a call. -/
def carryOut (s : Session) : Call → Logged Reply × Session
  | .compile pattern hasOutput => replied (some ∘ .token) (s.compile pattern hasOutput)
  | .dispose patterns count => replied (fun _ => none) (s.dispose patterns count)
  | .findBest q =>
    replied (some ∘ .best) (s.findBest q.patterns q.count q.text q.length q.start q.hasOutput)
  | .configure json => replied (fun _ => none) (s.configure json)
  | .readError =>
    ({ value := .message s.writeLastError.message, events := [] }, s.writeLastError)
  | .recordError code => ({ value := .nothing, events := [] }, s.recordError code)

/-- What a call gives to its caller, and the session that it leaves. -/
def perform (s : Session) (c : Call) : Reply × Session :=
  ((s.carryOut c).1.value, (s.carryOut c).2)

/-- What a call tells. -/
def told (s : Session) (c : Call) : List Event := (s.carryOut c).1.events

/-- The session after calls made one after the other. -/
def after (s : Session) : List Call → Session
  | [] => s
  | c :: cs => (s.perform c).2.after cs

/-- A call and the session that it comes to. -/
structure Visit where
  session : Session
  call : Call

/-- What the caller gets. -/
def Visit.reply (v : Visit) : Reply := (v.session.perform v.call).1

/-- The history of calls made one after the other. -/
def visits (s : Session) : List Call → List Visit
  | [] => []
  | c :: cs => ⟨s, c⟩ :: (s.perform c).2.visits cs

theorem after_concat (s : Session) (cs : List Call) (c : Call) :
    s.after (cs ++ [c]) = ((s.after cs).perform c).2 := by
  induction cs generalizing s with
  | nil => rfl
  | cons d cs ih => exact ih (s.perform d).2

theorem visits_concat (s : Session) (cs : List Call) (c : Call) :
    s.visits (cs ++ [c]) = s.visits cs ++ [⟨s.after cs, c⟩] := by
  induction cs generalizing s with
  | nil => rfl
  | cons d cs ih => exact congrArg (Visit.mk s d :: ·) (ih (s.perform d).2)

/-- Writing the message to the buffer leaves all else. -/
@[simp] theorem registry_writeLastError (s : Session) :
    s.writeLastError.registry = s.registry := by
  simp only [writeLastError]

@[simp] theorem lastError_writeLastError (s : Session) :
    s.writeLastError.lastError = s.lastError := by
  simp only [writeLastError]

/-- A call ends as its request does: it writes what came of it, or keeps the code of its error. -/
theorem perform_of_conclude {s t : Session} {c : Call} {α : Type} {written : α → Option Written}
    {result : Logged (Except ScanError α)}
    (h : s.carryOut c = replied written (t.conclude result)) :
    s.perform c = match result.value with
      | .ok a => (.answered .succeeded (written a), t)
      | .error e => (.answered .failed none, t.recordError e.code) := by
  rw [perform, h, replied, conclude]
  cases result.value <;> rfl

/-! ## What reaches the store -/

/-- The settings whose JSON form is at an address. -/
def settingsAt? (json : Option ByteArray) : Option Settings :=
  json.bind fun json => (String.fromUTF8? (untilZero json)).bind fun text =>
    (Settings.read text).toOption

/-- The request that a call carries to the store. -/
def Call.request? : Call → Option Request
  | .compile (some pattern) true => some (.compileBytes (untilZero pattern))
  | .dispose patterns count =>
    (listAt? patterns count).map fun raws => .dispose (raws.filterMap Handle.ofRaw?)
  | .configure json => (settingsAt? json).map .reconfigure
  | _ => none

theorem Call.request?_eq_dispose_iff {c : Call} {hs : List Handle} :
    c.request? = some (.dispose hs) ↔ ∃ patterns count raws, c = .dispose patterns count ∧
      listAt? patterns count = some raws ∧ raws.filterMap Handle.ofRaw? = hs := by
  constructor
  · intro h
    cases c with
    | dispose patterns count =>
        obtain ⟨raws, hlist, heq⟩ := Option.map_eq_some_iff.mp h
        exact ⟨patterns, count, raws, rfl, hlist, Request.dispose.inj heq⟩
    | compile pattern hasOutput => rcases pattern with _ | pattern <;> cases hasOutput <;> cases h
    | configure json => obtain ⟨settings, -, ⟨⟩⟩ := Option.map_eq_some_iff.mp h
    | _ => cases h
  · rintro ⟨patterns, count, raws, rfl, hlist, rfl⟩
    rw [Call.request?, hlist, Option.map_some]

theorem Call.request?_eq_reconfigure_iff {c : Call} {settings : Settings} :
    c.request? = some (.reconfigure settings) ↔
      ∃ json, c = .configure json ∧ settingsAt? json = some settings := by
  constructor
  · intro h
    cases c with
    | configure json =>
        obtain ⟨t, hread, heq⟩ := Option.map_eq_some_iff.mp h
        exact ⟨json, rfl, Request.reconfigure.inj heq ▸ hread⟩
    | compile pattern hasOutput => rcases pattern with _ | pattern <;> cases hasOutput <;> cases h
    | dispose patterns count => obtain ⟨raws, -, ⟨⟩⟩ := Option.map_eq_some_iff.mp h
    | _ => cases h
  · rintro ⟨json, rfl, hread⟩
    rw [Call.request?, hread, Option.map_some]

/-- A pattern that is there, with room for its token, is compiled and stored. -/
theorem perform_compile (s : Session) (pattern : ByteArray) :
    s.perform (.compile (some pattern) true) =
      match (s.registry.compileBytes (untilZero pattern)).1.value with
      | .ok h => (.answered .succeeded (some (.token h.toRaw)),
          { s with registry := (s.registry.compileBytes (untilZero pattern)).2 })
      | .error e => (.answered .failed none,
          { s with registry := (s.registry.compileBytes (untilZero pattern)).2 }.recordError
            e.code) := by
  have hcarry : s.carryOut (.compile (some pattern) true) =
      replied (some ∘ .token)
        ({ s with registry := (s.registry.compileBytes (untilZero pattern)).2 }.conclude
          ((s.registry.compileBytes (untilZero pattern)).1.map (Except.map Handle.toRaw))) := rfl
  rw [perform_of_conclude hcarry, Logged.value_map]
  cases (s.registry.compileBytes (untilZero pattern)).1.value <;> rfl

/-- A list that can be read is given up. -/
theorem perform_dispose (s : Session) {patterns : Option (List UInt64)} {count : Int}
    {raws : List UInt64} (h : listAt? patterns count = some raws) :
    s.perform (.dispose patterns count) = (.answered .succeeded none,
      { s with registry := (s.registry.dispose (raws.filterMap Handle.ofRaw?)).2 }) := by
  rw [perform, carryOut, dispose, h]
  rfl

/-- A list that cannot be read is an error. -/
theorem perform_dispose_of_listAt?_eq_none (s : Session) {patterns : Option (List UInt64)}
    {count : Int} (h : listAt? patterns count = none) :
    s.perform (.dispose patterns count) =
      (.answered .failed none, s.recordError .invalidArgument) := by
  rw [perform, carryOut, dispose, h]
  rfl

/-- A configuration succeeds with the settings at the address, and fails if there are none. -/
theorem perform_configure (s : Session) (json : Option ByteArray) :
    s.perform (.configure json) =
      match settingsAt? json with
      | some settings => (.answered .succeeded none,
          { s with registry := s.registry.reconfigure settings })
      | none => (.answered .failed none, s.recordError .invalidArgument) := by
  cases json with
  | none => rfl
  | some json =>
      rw [perform, carryOut, configure, settingsAt?, Option.bind_some]
      cases String.fromUTF8? (untilZero json) with
      | none => rfl
      | some text =>
          dsimp only [Option.bind_some]
          cases Settings.read text <;> rfl

/-- Ending a call leaves the store. -/
theorem registry_conclude {α : Type} (s : Session) (result : Logged (Except ScanError α)) :
    (s.conclude result).2.registry = s.registry := by
  unfold conclude
  split <;> rfl

theorem registry_findBest (s : Session) (patterns : Option (List UInt64)) (count : Int)
    (text : Option ByteArray) (length start : Int) (hasOutput : Bool) :
    (s.findBest patterns count text length start hasOutput).2.registry = s.registry := by
  unfold findBest
  repeat' split
  all_goals exact registry_conclude s _

/-- Of all calls only those that carry a request reach the store. -/
theorem registry_perform (s : Session) (c : Call) : (s.perform c).2.registry =
    match c.request? with
    | some q => (s.registry.perform q).2
    | none => s.registry := by
  cases c with
  | compile pattern hasOutput =>
      cases pattern with
      | none => cases hasOutput <;> rfl
      | some pattern =>
          cases hasOutput with
          | false => rfl
          | true =>
              rw [perform_compile]
              cases (s.registry.compileBytes (untilZero pattern)).1.value <;> rfl
  | dispose patterns count =>
      rw [Call.request?]
      cases hlist : listAt? patterns count with
      | none => rw [perform_dispose_of_listAt?_eq_none s hlist]; rfl
      | some raws => rw [perform_dispose s hlist]; rfl
  | findBest q => exact registry_findBest s _ _ _ _ _ _
  | configure json =>
      rw [perform_configure, Call.request?]
      cases settingsAt? json <;> rfl
  | readError => exact registry_writeLastError s
  | recordError code => rfl

/-- The store is after calls as their requests leave it. -/
theorem registry_after (s : Session) (cs : List Call) :
    (s.after cs).registry = (s.registry.run (cs.filterMap Call.request?)).2 := by
  induction cs generalizing s with
  | nil => rfl
  | cons c cs ih =>
      rw [after, ih, registry_perform]
      cases hq : c.request? with
      | none => rw [List.filterMap_cons_none hq]
      | some q => rw [List.filterMap_cons_some hq, Registry.run_cons]

/-- No call changes the engines. -/
theorem engines_after (s : Session) (cs : List Call) :
    (s.after cs).registry.compiler.engines = s.registry.compiler.engines := by
  rw [registry_after, Registry.engines_run]

theorem wellFormed_after {s : Session} (wf : s.registry.WellFormed) (cs : List Call) :
    (s.after cs).registry.WellFormed := by
  rw [registry_after]
  exact wf.run _

theorem wellFormed_initial (e : Engines) : (initial e).registry.WellFormed :=
  Registry.wellFormed_ofSettings {} e

/-! ## Since a call -/

/-- One of the elements is in `P`, and none behind it is in `Q`. -/
def Since {α : Type} (P Q : α → Prop) (xs : List α) : Prop :=
  ∃ earlier x later, xs = earlier ++ x :: later ∧ P x ∧ ∀ y ∈ later, ¬Q y

theorem since_concat {α : Type} {P Q : α → Prop} {xs : List α} {x : α} :
    Since P Q (xs ++ [x]) ↔ P x ∨ Since P Q xs ∧ ¬Q x := by
  constructor
  · rintro ⟨earlier, y, later, heq, hy, hlater⟩
    rcases List.eq_nil_or_concat later with rfl | ⟨later, z, rfl⟩
    · obtain ⟨-, hxy⟩ := List.append_inj' heq rfl
      obtain rfl : x = y := by simpa using hxy
      exact .inl hy
    · obtain ⟨rfl, hxz⟩ := List.append_inj' (heq.trans (by simp :
        _ = (earlier ++ y :: later) ++ [z])) rfl
      obtain rfl : x = z := by simpa using hxz
      exact .inr ⟨⟨earlier, y, later, rfl, hy, fun w hw => hlater w (by simp [hw])⟩,
        hlater x (by simp)⟩
  · rintro (hx | ⟨⟨earlier, y, later, rfl, hy, hlater⟩, hx⟩)
    · exact ⟨xs, x, [], rfl, hx, by simp⟩
    · refine ⟨earlier, y, later ++ [x], by simp, hy, fun w hw => ?_⟩
      rcases List.mem_append.mp hw with hw | hw
      · exact hlater w hw
      · rwa [List.mem_singleton.mp hw]

/-- What each call makes true, undoes or leaves is true after calls since one that made it so, or
since before them. -/
theorem iff_since_after {f : Session → Prop} {P Q : Visit → Prop}
    (hstep : ∀ s c, s.registry.WellFormed →
      (f (s.perform c).2 ↔ P ⟨s, c⟩ ∨ f s ∧ ¬Q ⟨s, c⟩))
    {s : Session} (wf : s.registry.WellFormed) (cs : List Call) :
    f (s.after cs) ↔ Since P Q (s.visits cs) ∨ f s ∧ ∀ v ∈ s.visits cs, ¬Q v := by
  induction cs using List.reverseRecOn with
  | nil => simp [after, visits, Since]
  | append_singleton cs c ih =>
      rw [after_concat, visits_concat, hstep _ _ (wellFormed_after wf cs), ih, since_concat]
      simp only [List.forall_mem_append, List.forall_mem_singleton]
      grind

end Session

end Leftmost
