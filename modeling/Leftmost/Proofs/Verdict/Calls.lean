import Leftmost.Proofs.Verdict

/-!
# Leftmost.Proofs.Verdict.Calls

Which searchers a pass calls, and with what.  What a searcher gives may depend on a state that it and
the searchers before it have changed, so the calls of a pass are noted while it runs:

* `selectFrom_eq_map_callEach` — in any monad, a pass is a row of calls that ends with the first
  failure, and a decision that calls nothing;
* `notedPass_eq` — hence the notes on a pass count these calls, and taking them changes nothing;
* `run_callEach` — the row of calls ends where the searchers, called one after the other, first fail;
* `callsInOrder_select` — all of this, for searchers that share any state.
-/

namespace Leftmost

namespace Selection

/-! ## A pass as a row of calls -/

section

variable {m : Type → Type} [Monad m]

/-- Calls searchers one after the other in a window, up to the first that fails. -/
def callEach (w : Window) : List (Searcher m) → m (List Outcome)
  | [] => return []
  | search :: rest => do
    match ← search w.haystack w.start w.stop with
    | .error f => return [.error f]
    | .ok found => return .ok found :: (← callEach w rest)

/-- A searcher that gives an outcome, whatever it is asked. -/
def giving (o : Outcome) : Searcher Id := fun _ _ _ => pure o

/-- A pass is a row of calls, and a pass over what they gave. -/
theorem selectFrom_eq_map_callEach [LawfulMonad m] (w : Window) (best : Best) (index : Nat)
    (searchers : List (Searcher m)) : selectFrom w best index searchers =
      (fun os => Id.run (selectFrom w best index (os.map giving))) <$> callEach w searchers := by
  induction searchers generalizing best index with
  | nil => simp [selectFrom, callEach]
  | cons search rest ih =>
      rw [selectFrom, callEach, map_bind]
      refine bind_congr fun o => ?_
      cases o with
      | error f => simp [selectFrom, giving]
      | ok found =>
          cases found with
          | none => simp [selectFrom, giving, ih]
          | some r =>
              by_cases hkeep : 0 < r.groupCount ∧ isBetter best r = true
              · simp [selectFrom, giving, ih, hkeep]
              · simp [selectFrom, giving, ih, hkeep]

/-! ## Notes -/

/-- A call of a searcher: its position, and what it is asked. -/
structure Call where
  index : Nat
  haystack : ByteArray
  start : Nat
  stop : Nat

/-- A searcher whose calls are noted. -/
def noted (search : Searcher m) (index : Nat) : Searcher (StateT (List Call) m) :=
  fun h start stop => do
    modify (· ++ [⟨index, h, start, stop⟩])
    search h start stop

/-- Searchers whose calls are noted, with their positions counted from a number on. -/
def notedFrom (index : Nat) (searchers : List (Searcher m)) :
    List (Searcher (StateT (List Call) m)) :=
  (searchers.zipIdx index).map fun (search, i) => noted search i

/-- What a pass gives, and the calls that it makes. -/
def notedPass (searchers : List (Searcher m)) (w : Window) :
    m (Logged (Except ScanError Best) × List Call) :=
  (select (notedFrom 0 searchers) w).run []

/-- Calls in a window of so many searchers, one after the other. -/
def callsIn (w : Window) (index n : Nat) : List Call :=
  (List.range' index n).map fun i => ⟨i, w.haystack, w.start, w.stop⟩

theorem callsIn_succ (w : Window) (index n : Nat) :
    callsIn w index (n + 1) = ⟨index, w.haystack, w.start, w.stop⟩ :: callsIn w (index + 1) n := by
  simp [callsIn, List.range'_succ]

variable [LawfulMonad m]

/-- A row of calls is noted as one call for each outcome. -/
theorem run_callEach_notedFrom (w : Window) (index : Nat) (searchers : List (Searcher m))
    (calls : List Call) : (callEach w (notedFrom index searchers)).run calls =
      (fun os => (os, calls ++ callsIn w index os.length)) <$> callEach w searchers := by
  induction searchers generalizing index calls with
  | nil => simp [notedFrom, callEach, callsIn]
  | cons search rest ih =>
      rw [notedFrom, List.zipIdx_cons, List.map_cons, ← notedFrom, callEach, callEach, map_bind]
      simp only [noted, bind_pure_comp, bind_assoc, StateT.run_bind, StateT.run_modify,
        StateT.run_monadLift, monadLift_self, bind_map_left, pure_bind]
      refine bind_congr fun o => ?_
      cases o with
      | error f => simp [callsIn]
      | ok found => simp [ih, callsIn_succ]

/-- The notes on a pass are one call for each outcome, in order. -/
theorem notedPass_eq (searchers : List (Searcher m)) (w : Window) :
    notedPass searchers w = (fun os =>
      (Id.run (select (os.map giving) w), callsIn w 0 os.length)) <$> callEach w searchers := by
  rw [notedPass, select, selectFrom_eq_map_callEach, StateT.run_map, run_callEach_notedFrom]
  simp [select]

end

/-! ## Where the calls end -/

/-- Outcomes up to the first failure. -/
def upToFailure : List Outcome → List Outcome
  | [] => []
  | .error f :: _ => [.error f]
  | .ok found :: rest => .ok found :: upToFailure rest

theorem upToFailure_append {seen : List Outcome} (hseen : ∀ i f, ¬IsFailure seen i f)
    (os : List Outcome) : upToFailure (seen ++ os) = seen ++ upToFailure os := by
  induction seen with
  | nil => rfl
  | cons o seen ih =>
      cases o with
      | error f => exact absurd rfl (hseen 0 f)
      | ok found => exact congrArg _ (ih fun i => hseen (i + 1))

theorem length_upToFailure_of_isFirstFailure {os : List Outcome} {i : Nat} {f : SearchFailure}
    (h : IsFirstFailure os i f) : (upToFailure os).length = i + 1 := by
  obtain ⟨⟨hlt, hi⟩, hbefore⟩ := And.imp_left List.getElem?_eq_some_iff.mp h
  have hseen : ∀ j g, ¬IsFailure (os.take i) j g := by
    intro j g hg
    have hj : j < i := by
      have := (List.getElem?_eq_some_iff.mp hg).1
      simp only [List.length_take] at this
      omega
    exact hbefore j hj g ((List.getElem?_take_of_lt hj).symm.trans hg)
  have hsplit : os = os.take i ++ .error f :: os.drop (i + 1) := by
    rw [← hi, List.getElem_cons_drop, List.take_append_drop]
  rw [hsplit, upToFailure_append hseen, List.length_append, List.length_take,
    Nat.min_eq_left (Nat.le_of_lt hlt)]
  rfl

theorem upToFailure_of_not_isFailure {os : List Outcome} (h : ∀ i f, ¬IsFailure os i f) :
    upToFailure os = os := by
  simpa [upToFailure] using upToFailure_append h []

/-! ## Searchers that share a state -/

section

variable {σ : Type}

/-- What searchers give when all are called from a state on, one after the other. -/
def outcomesFrom (w : Window) : List (Searcher (StateM σ)) → σ → List Outcome
  | [], _ => []
  | search :: rest, s =>
    let given := (search w.haystack w.start w.stop).run s
    given.1 :: outcomesFrom w rest given.2

theorem length_outcomesFrom (w : Window) (searchers : List (Searcher (StateM σ))) (s : σ) :
    (outcomesFrom w searchers s).length = searchers.length := by
  induction searchers generalizing s with
  | nil => rfl
  | cons search rest ih => simp [outcomesFrom, ih]

/-- A row of calls ends where the searchers, called one after the other, first fail. -/
theorem run_callEach (w : Window) (searchers : List (Searcher (StateM σ))) (s : σ) :
    ((callEach w searchers).run s).1 = upToFailure (outcomesFrom w searchers s) := by
  induction searchers generalizing s with
  | nil => rfl
  | cons search rest ih =>
      rw [callEach, outcomesFrom, StateT.run_bind]
      generalize (search w.haystack w.start w.stop).run s = given
      obtain ⟨o, s'⟩ : Outcome × σ := given
      cases o with
      | error f => rfl
      | ok found => exact congrArg (.ok found :: ·) (ih s')

/-- The calls that a pass makes from a state on. -/
def callsOf (searchers : List (Searcher (StateM σ))) (w : Window) (s : σ) : List Call :=
  ((notedPass searchers w).run s).1.2

theorem callsOf_eq (searchers : List (Searcher (StateM σ))) (w : Window) (s : σ) :
    callsOf searchers w s = callsIn w 0 (upToFailure (outcomesFrom w searchers s)).length := by
  rw [callsOf, notedPass_eq, ← run_callEach]
  rfl

/-- The calls of so many searchers, in order, each with the whole text and with the range from the
start to its end. -/
def callsTo (h : ByteArray) (start n : Nat) : List Call :=
  (List.range n).map fun i => ⟨i, h, min start h.size, h.size⟩

theorem callsIn_ofStart (h : ByteArray) (start n : Nat) :
    callsIn (.ofStart h start) 0 n = callsTo h start n := by
  rw [callsIn, callsTo, List.range_eq_range']
  rfl

/-- What a pass calls, from a state of its searchers on. -/
structure CallsInOrder (searchers : List (Searcher (StateM σ))) (h : ByteArray) (start : Nat)
    (s : σ) : Prop where
  /-- Notes change neither what a pass gives nor the state that it leaves. -/
  faithful : Prod.fst <$> notedPass searchers (.ofStart h start) =
    select searchers (.ofStart h start)
  /-- If one fails, the searchers are called up to the first that does, -/
  failed : ∀ i f, IsFirstFailure (outcomesFrom (.ofStart h start) searchers s) i f →
    callsOf searchers (.ofStart h start) s = callsTo h start (i + 1)
  /-- and else all of them, whatever they find. -/
  passed : (∀ i f, ¬IsFailure (outcomesFrom (.ofStart h start) searchers s) i f) →
    callsOf searchers (.ofStart h start) s = callsTo h start searchers.length

/-- A pass calls its searchers in order, each once and with the same range, up to the first that
fails or to the end of the list. -/
theorem callsInOrder_select (searchers : List (Searcher (StateM σ))) (h : ByteArray) (start : Nat)
    (s : σ) : CallsInOrder searchers h start s where
  faithful := by
    rw [notedPass_eq, Functor.map_map, select, selectFrom_eq_map_callEach]
    rfl
  failed i f hf := by
    rw [callsOf_eq, length_upToFailure_of_isFirstFailure hf, callsIn_ofStart]
  passed hno := by
    rw [callsOf_eq, upToFailure_of_not_isFailure hno, length_outcomesFrom, callsIn_ofStart]

end

end Selection

end Leftmost
