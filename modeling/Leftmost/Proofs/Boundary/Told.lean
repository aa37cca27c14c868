import Leftmost.Proofs.Boundary.Fault
import Leftmost.Proofs.Registry.Disposal

/-!
# Leftmost.Proofs.Boundary.Told

What calls from outside tell of their failures.  A request tells of its patterns and its searches,
but never that a call failed; that is told where the call ends, and nowhere else:

* `exists_conclude` — a call that answers ends as the result of some request has it;
* `told_spec` — with -1 it tells its error behind all else, and keeps the code of that error; with 0
  it tells none;
* `lastError_after_eq` — hence the code kept after calls is that of the last error told.
-/

namespace Leftmost

/-! ## What requests tell -/

/-- The error that an event tells of a call. -/
def Event.failedCall? : Event → Option ScanError
  | .callFailed e => some e
  | _ => none

/-- The errors of calls that are told. -/
def failedCalls (events : List Event) : List ScanError := events.filterMap Event.failedCall?

@[simp]
theorem failedCalls_append (as bs : List Event) :
    failedCalls (as ++ bs) = failedCalls as ++ failedCalls bs := List.filterMap_append

open Selection in
theorem failedCalls_selectFrom (w : Window) (searchers : List (Searcher Id)) (best : Best)
    (index : Nat) : failedCalls (Id.run (selectFrom w best index searchers)).events = [] := by
  induction searchers generalizing best index with
  | nil => rfl
  | cons search rest ih =>
      simp only [selectFrom, Id.run_bind]
      cases Id.run (search w.haystack w.start w.stop) with
      | error f => rfl
      | ok found =>
          cases found with
          | none => exact ih best (index + 1)
          | some r =>
              dsimp only
              split
              · exact ih (some (index, r)) (index + 1)
              · exact ih best (index + 1)

namespace Registry

theorem failedCalls_insertCompiled (r : Registry) (compiled : Except ScanError Compiled) :
    failedCalls (r.insertCompiled compiled).1.events = [] := by
  cases compiled with
  | error e => rfl
  | ok p =>
      simp only [Registry.insertCompiled, Registry.insert]
      repeat' split
      all_goals rfl

theorem failedCalls_dispose (r : Registry) (hs : List Handle) :
    failedCalls (r.dispose hs).1.events = [] := by
  rw [events_dispose, failedCalls, List.filterMap_map]
  exact List.filterMap_eq_nil_iff.mpr fun _ _ => rfl

theorem failedCalls_findBest (r : Registry) (hs : List Handle) (text : ByteArray) (start : Nat) :
    failedCalls (r.findBest hs text start).events = [] := by
  unfold Registry.findBest
  split
  · rfl
  · exact failedCalls_selectFrom _ _ _ _

end Registry

namespace Session

/-! ## One call -/

/-- A search from outside ends as the result of some request has it. -/
theorem exists_conclude_findBest (s : Session) (q : Query) : ∃ result,
    s.findBest q.patterns q.count q.text q.length q.start q.hasOutput = s.conclude result ∧
      failedCalls result.events = [] := by
  unfold findBest
  repeat' split
  -- Only a search whose arguments are in order has told anything.
  case h_2 => exact ⟨_, rfl, Registry.failedCalls_findBest _ _ _ _⟩
  all_goals exact ⟨{ value := .error _, events := [] }, rfl, rfl⟩

/-- A call that answers ends as the result of some request has it, which leaves the code kept and
tells of no call that failed. -/
theorem exists_conclude (s : Session) {c : Call} (hc : c.Answers) :
    ∃ (α : Type) (written : α → Option Written) (t : Session) (result : Logged (Except ScanError α)),
      s.carryOut c = replied written (t.conclude result) ∧ t.lastError = s.lastError ∧
        failedCalls result.events = [] := by
  cases c with
  | compile pattern hasOutput =>
      cases pattern with
      | none => exact ⟨_, _, s, _, rfl, rfl, rfl⟩
      | some pattern =>
          cases hasOutput with
          | false => exact ⟨_, _, s, _, rfl, rfl, rfl⟩
          | true => exact ⟨_, _, _, _, rfl, rfl, Registry.failedCalls_insertCompiled _ _⟩
  | dispose patterns count =>
      rw [carryOut, dispose]
      cases listAt? patterns count with
      | none => exact ⟨_, _, s, _, rfl, rfl, rfl⟩
      | some raws => exact ⟨_, _, _, _, rfl, rfl, Registry.failedCalls_dispose _ _⟩
  | findBest q =>
      obtain ⟨result, hresult, htold⟩ := s.exists_conclude_findBest q
      exact ⟨_, _, s, result, congrArg (replied (some ∘ .best)) hresult, rfl, htold⟩
  | configure json =>
      rw [carryOut]
      unfold configure
      repeat' split
      all_goals exact ⟨_, _, _, _, rfl, rfl, rfl⟩
  | readError => exact hc.elim
  | recordError code => exact hc.elim

/-- A call that answers 0 tells of no failed call. One that answers -1 tells its error behind all
else, and keeps the code of that error. -/
theorem told_spec (s : Session) {c : Call} (hc : c.Answers) :
    ((∃ w, (s.perform c).1 = .answered .succeeded w) ∧ failedCalls (s.told c) = [] ∧
      (s.perform c).2.lastError = s.lastError) ∨
    ∃ e earlier, (s.perform c).1 = .answered .failed none ∧
      s.told c = earlier ++ [.callFailed e] ∧ failedCalls earlier = [] ∧
      (s.perform c).2.lastError = e.code.number := by
  obtain ⟨α, written, t, result, hcarry, hkept, htold⟩ := s.exists_conclude hc
  have hevents : s.told c = (t.conclude result).1.events := congrArg (·.1.events) hcarry
  rw [perform_of_conclude hcarry, hevents, conclude]
  cases result.value with
  | ok a => exact .inl ⟨⟨_, rfl⟩, htold, hkept⟩
  | error e => exact .inr ⟨e, _, rfl, rfl, htold, rfl⟩

/-- A call that brings no code keeps that of the last error it tells. -/
theorem lastError_perform_eq (s : Session) {c : Call} (hc : ∀ code, c ≠ .recordError code) :
    (s.perform c).2.lastError =
      ((failedCalls (s.told c)).getLast?.map fun e => e.code.number).getD s.lastError := by
  by_cases hanswers : c.Answers
  · rcases s.told_spec hanswers with ⟨-, htold, hkept⟩ | ⟨e, earlier, -, htold, hearlier, hcode⟩
    · rw [htold, hkept]
      rfl
    · rw [htold, failedCalls_append, hearlier, hcode]
      rfl
  · cases c with
    | readError => exact lastError_writeLastError s
    | recordError code => exact absurd rfl (hc code)
    | _ => exact absurd trivial hanswers

/-! ## Any calls -/

/-- What a call tells. -/
def Visit.told (v : Visit) : List Event := v.session.told v.call

/-- What calls made one after the other tell. -/
def log (s : Session) (cs : List Call) : List Event := (s.visits cs).flatMap Visit.told

theorem log_cons (s : Session) (c : Call) (cs : List Call) :
    s.log (c :: cs) = s.told c ++ (s.perform c).2.log cs := rfl

/-- If no code is brought from outside, the code kept after calls is that of the last error told,
and the one kept before them if none is told. -/
theorem lastError_after_eq (s : Session) {cs : List Call}
    (hcs : ∀ code, Call.recordError code ∉ cs) : (s.after cs).lastError =
      ((failedCalls (s.log cs)).getLast?.map fun e => e.code.number).getD s.lastError := by
  induction cs generalizing s with
  | nil => rfl
  | cons c cs ih =>
      have hhead : ∀ code, c ≠ .recordError code := fun code h =>
        hcs code (h ▸ List.mem_cons_self)
      have htail : ∀ code, Call.recordError code ∉ cs := fun code h =>
        hcs code (List.mem_cons_of_mem c h)
      rw [after, ih _ htail, s.lastError_perform_eq hhead, log_cons, failedCalls_append,
        List.getLast?_append]
      cases (failedCalls ((s.perform c).2.log cs)).getLast? <;> rfl

end Session

end Leftmost
