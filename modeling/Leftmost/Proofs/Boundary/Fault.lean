import Leftmost.Proofs.Boundary.Run
import Leftmost.Proofs.Handle
import Leftmost.Proofs.Registry.Search

/-!
# Leftmost.Proofs.Boundary.Fault

Which calls from outside fail, and with which code, said without the code that carries them out:

* `IsMalformed` — an address and a count that no list can be read from;
* `Query.Fails` — what a search fails with, the conditions in the order in which they count;
* `findBest_failed_iff` — it is what a search leaves with -1;
* `Fails` — what any call fails with;
* `perform_of_fails` — a call that fails keeps its code, writes nothing and changes nothing else;
* `perform_of_not_fails` — a call that does not fail leaves the code kept before.
-/

namespace Leftmost

namespace ErrorCode

/-- Codes have different numbers. -/
theorem number_inj {c d : ErrorCode} : c.number = d.number ↔ c = d := by
  refine ⟨fun h => ?_, fun h => by rw [h]⟩
  have hread := ofNumber?_number d
  rw [← h, ofNumber?_number] at hread
  exact Option.some.inj hread

end ErrorCode

namespace Session

open Selection

/-! ## Addresses -/

/-- No list can be read: the count is negative, or it is positive and the address is null. -/
def IsMalformed {α : Type} (address : Option α) (count : Int) : Prop :=
  count < 0 ∨ 0 < count ∧ address = none

theorem listAt?_of_isMalformed {α : Type} {address : Option (List α)} {count : Int}
    (h : IsMalformed address count) : listAt? address count = none := by
  rcases h with hneg | ⟨hpos, rfl⟩
  · simp [listAt?, hneg]
  · simp [listAt?, Int.ne_of_gt hpos]

theorem bytesAt?_of_isMalformed {address : Option ByteArray} {count : Int}
    (h : IsMalformed address count) : bytesAt? address count = none := by
  rcases h with hneg | ⟨hpos, rfl⟩
  · simp [bytesAt?, hneg]
  · simp [bytesAt?, Int.ne_of_gt hpos]

theorem listAt?_of_not_isMalformed {α : Type} {address : Option (List α)} {count : Int}
    (h : ¬IsMalformed address count) :
    listAt? address count = some ((address.getD []).take count.toNat) := by
  obtain ⟨hnonneg, hnull⟩ := not_or.mp h
  by_cases hzero : count = 0
  · simp [listAt?, hzero]
  · cases address with
    | none => exact absurd ⟨by omega, rfl⟩ hnull
    | some xs => simp [listAt?, hnonneg, hzero]

theorem bytesAt?_of_not_isMalformed {address : Option ByteArray} {count : Int}
    (h : ¬IsMalformed address count) :
    bytesAt? address count = some ((address.getD .empty).extract 0 count.toNat) := by
  obtain ⟨hnonneg, hnull⟩ := not_or.mp h
  by_cases hzero : count = 0
  · simp [bytesAt?, hzero]
  · cases address with
    | none => exact absurd ⟨by omega, rfl⟩ hnull
    | some b => simp [bytesAt?, hnonneg, hzero]

/-! ## Searches -/

/-- The packed tokens of a search. -/
def Query.raws (q : Query) : List UInt64 := (q.patterns.getD []).take q.count.toNat

/-- The text of a search. -/
def Query.haystack (q : Query) : ByteArray := (q.text.getD .empty).extract 0 q.length.toNat

/-- The tokens of a search. -/
def Query.handles (q : Query) : List Handle := q.raws.map Handle.unpack

/-- There is room for the result, and packed tokens and text can be read. -/
structure Query.IsReadable (q : Query) : Prop where
  hasOutput : q.hasOutput = true
  patterns : ¬IsMalformed q.patterns q.count
  text : ¬IsMalformed q.text q.length

/-- What a search fails with. A condition counts only if none before it is met. -/
inductive Query.Fails (r : Registry) (q : Query) : ErrorCode → Prop where
  | noOutput : q.hasOutput = false → Fails r q .invalidArgument
  | badPatterns : q.hasOutput = true → IsMalformed q.patterns q.count →
      Fails r q .invalidArgument
  | badText : q.hasOutput = true → ¬IsMalformed q.patterns q.count →
      IsMalformed q.text q.length → Fails r q .invalidArgument
  /-- Some word is no token, wherever in the list. -/
  | nullToken : q.IsReadable → (∃ raw ∈ q.raws, Handle.IsNull raw) → Fails r q .invalidArgument
  /-- All words are tokens, and one of them stands for nothing. -/
  | staleToken : q.IsReadable → (∀ raw ∈ q.raws, ¬Handle.IsNull raw) →
      (∃ h ∈ q.handles, r.get? h = none) → Fails r q .invalidHandle
  /-- All tokens stand for patterns, and the search of one of them is the first to fail. -/
  | search {ps : List Compiled} {i : Nat} {f : SearchFailure} : q.IsReadable →
      (∀ raw ∈ q.raws, ¬Handle.IsNull raw) → Registry.Resolves r q.handles ps →
      IsFirstFailure (Registry.ownOutcomes ps q.haystack q.start.toNat) i f → Fails r q f.code

theorem handlesOf?_of_isNull {raws : List UInt64} (h : ∃ raw ∈ raws, Handle.IsNull raw) :
    handlesOf? raws = none := by
  induction raws with
  | nil => simp at h
  | cons raw raws ih =>
      rw [handlesOf?, List.mapM_cons, Handle.ofRaw?_eq]
      by_cases hraw : Handle.IsNull raw
      · rw [if_pos hraw]
        rfl
      · obtain ⟨bad, hmem, hbad⟩ := h
        have htail : handlesOf? raws = none := by
          rcases List.mem_cons.mp hmem with rfl | hmem
          · exact absurd hbad hraw
          · exact ih ⟨bad, hmem, hbad⟩
        rw [handlesOf?] at htail
        rw [if_neg hraw, htail]
        rfl

theorem handlesOf?_of_not_isNull {raws : List UInt64} (h : ∀ raw ∈ raws, ¬Handle.IsNull raw) :
    handlesOf? raws = some (raws.map Handle.unpack) := by
  induction raws with
  | nil => rfl
  | cons raw raws ih =>
      obtain ⟨hraw, hrest⟩ := List.forall_mem_cons.mp h
      have htail := ih hrest
      rw [handlesOf?] at htail ⊢
      rw [List.mapM_cons, Handle.ofRaw?_eq, if_neg hraw, htail]
      rfl

/-- What a search does with lists that can be read. -/
theorem findBest_of_isReadable (s : Session) {q : Query} (h : q.IsReadable) :
    s.findBest q.patterns q.count q.text q.length q.start q.hasOutput =
      match handlesOf? q.raws with
      | none => s.failArgument "null pattern handle"
      | some handles => s.conclude
          ((s.registry.findBest handles q.haystack q.start.toNat).map
            (Except.map FlatMatch.handOver)) := by
  rw [findBest, h.hasOutput, listAt?_of_not_isMalformed h.patterns,
    bytesAt?_of_not_isMalformed h.text]
  rfl

/-- A search whose words are tokens ends as the search of the store does. -/
theorem perform_findBest (s : Session) {q : Query} (hread : q.IsReadable)
    (hnull : ∀ raw ∈ q.raws, ¬Handle.IsNull raw) :
    s.perform (.findBest q) =
      match (s.registry.findBest q.handles q.haystack q.start.toNat).value with
      | .ok best => (.answered .succeeded (some (.best best.handOver)), s)
      | .error e => (.answered .failed none, s.recordError e.code) := by
  have hfind := findBest_of_isReadable s hread
  rw [handlesOf?_of_not_isNull hnull] at hfind
  have hcarry : s.carryOut (.findBest q) = replied (some ∘ .best)
      (s.conclude ((s.registry.findBest q.handles q.haystack q.start.toNat).map
        (Except.map FlatMatch.handOver))) := congrArg (replied _) hfind
  rw [perform_of_conclude hcarry, Logged.value_map]
  cases (s.registry.findBest q.handles q.haystack q.start.toNat).value <;> rfl

theorem perform_findBest_of_fails (s : Session) {q : Query} {code : ErrorCode}
    (h : q.Fails s.registry code) :
    s.perform (.findBest q) = (.answered .failed none, s.recordError code) := by
  cases h with
  | noOutput hout =>
      simp only [perform, carryOut, findBest, hout]
      rfl
  | badPatterns hout hpatterns =>
      simp only [perform, carryOut, findBest, hout, listAt?_of_isMalformed hpatterns]
      rfl
  | badText hout hpatterns htext =>
      simp only [perform, carryOut, findBest, hout, listAt?_of_not_isMalformed hpatterns,
        bytesAt?_of_isMalformed htext]
      rfl
  | nullToken hread hnull =>
      rw [perform, carryOut, findBest_of_isReadable s hread, handlesOf?_of_isNull hnull]
      rfl
  | staleToken hread hnull hstale =>
      obtain ⟨k, hall⟩ := Registry.exists_getAll_of_stale hstale
      rw [perform_findBest s hread hnull, Registry.findBest, hall]
      rfl
  | search hread hnull hres hfirst =>
      rw [perform_findBest s hread hnull,
        Registry.value_findBest_of_isFirstFailure hres hfirst]
      rfl

/-- A search that does not fail has read its lists. -/
theorem Query.isReadable_of_not_fails {r : Registry} {q : Query} (h : ∀ code, ¬q.Fails r code) :
    q.IsReadable := by
  have hout : q.hasOutput = true := by
    by_contra hno
    exact h _ (.noOutput (by simpa using hno))
  have hpatterns : ¬IsMalformed q.patterns q.count := fun hbad => h _ (.badPatterns hout hbad)
  exact ⟨hout, hpatterns, fun hbad => h _ (.badText hout hpatterns hbad)⟩

theorem perform_findBest_of_not_fails (s : Session) {q : Query}
    (h : ∀ code, ¬q.Fails s.registry code) :
    ∃ best, s.perform (.findBest q) = (.answered .succeeded (some (.best best)), s) := by
  have hread := Query.isReadable_of_not_fails h
  have hnull : ∀ raw ∈ q.raws, ¬Handle.IsNull raw := fun raw hmem hbad =>
    h _ (.nullToken hread ⟨raw, hmem, hbad⟩)
  obtain ⟨ps, hres⟩ := Registry.exists_resolves fun k hk hnone =>
    h _ (.staleToken hread hnull ⟨k, hk, hnone⟩)
  obtain ⟨best, hbest⟩ := Registry.exists_value_findBest hres fun i f hf =>
    h _ (.search hread hnull hres hf)
  exact ⟨best.handOver, by rw [perform_findBest s hread hnull, hbest]⟩

/-- The code that a search leaves with -1 is the one it fails with. -/
theorem findBest_failed_iff (s : Session) (q : Query) (code : ErrorCode) :
    s.perform (.findBest q) = (.answered .failed none, { s with lastError := code.number }) ↔
      q.Fails s.registry code := by
  refine ⟨fun h => ?_, perform_findBest_of_fails s⟩
  by_cases hfails : ∃ k, q.Fails s.registry k
  · obtain ⟨k, hk⟩ := hfails
    have hs := (perform_findBest_of_fails s hk).symm.trans h
    have hnumber : k.number = code.number := congrArg (·.2.lastError) hs
    rwa [← ErrorCode.number_inj.mp hnumber]
  · obtain ⟨best, hs⟩ := perform_findBest_of_not_fails s (not_exists.mp hfails)
    cases hs.symm.trans h

/-! ## Any calls -/

/-- What a call fails with. -/
inductive Fails (s : Session) : Call → ErrorCode → Prop where
  | noPattern {pattern : Option ByteArray} {hasOutput : Bool} :
      pattern = none ∨ hasOutput = false → Fails s (.compile pattern hasOutput) .invalidArgument
  /-- The compiler refuses the pattern. -/
  | refused {pattern : ByteArray} {e : ScanError} :
      s.registry.compiler.compileBytes (untilZero pattern) = .error e →
      Fails s (.compile (some pattern) true) e.code
  /-- There is no room for one pattern more. -/
  | full {pattern : ByteArray} {p : Compiled} :
      s.registry.compiler.compileBytes (untilZero pattern) = .ok p →
      Registry.capacity ≤ s.registry.size →
      Fails s (.compile (some pattern) true) .invalidArgument
  | dispose {patterns : Option (List UInt64)} {count : Int} :
      IsMalformed patterns count → Fails s (.dispose patterns count) .invalidArgument
  | findBest {q : Query} {code : ErrorCode} :
      q.Fails s.registry code → Fails s (.findBest q) code
  /-- No settings can be read. -/
  | configure {json : Option ByteArray} :
      settingsAt? json = none → Fails s (.configure json) .invalidArgument

/-- The calls that answer whether they succeeded. -/
def Call.Answers : Call → Prop
  | .compile .. | .dispose .. | .findBest _ | .configure _ => True
  | .readError | .recordError _ => False

theorem Call.Answers.of_reply {s : Session} {c : Call} {a : Answer} {w : Option Written}
    (h : (s.perform c).1 = .answered a w) : c.Answers := by
  cases c with
  | readError => cases h
  | recordError code => cases h
  | _ => trivial

/-- A pattern that is compiled is refused, turned away or stored. -/
theorem perform_compile_spec {s : Session} (wf : s.registry.WellFormed) (pattern : ByteArray) :
    (∃ e, s.registry.compiler.compileBytes (untilZero pattern) = .error e ∧
      s.perform (.compile (some pattern) true) = (.answered .failed none, s.recordError e.code)) ∨
    (∃ p, s.registry.compiler.compileBytes (untilZero pattern) = .ok p ∧
      Registry.capacity ≤ s.registry.size ∧
      s.perform (.compile (some pattern) true) =
        (.answered .failed none, s.recordError .invalidArgument)) ∨
    ∃ (p : Compiled) (h : Handle), s.registry.compiler.compileBytes (untilZero pattern) = .ok p ∧
      s.registry.size < Registry.capacity ∧
      s.perform (.compile (some pattern) true) = (.answered .succeeded (some (.token h.toRaw)),
        { s with registry := (s.registry.compileBytes (untilZero pattern)).2 }) := by
  rw [perform_compile, Registry.compileBytes]
  cases s.registry.compiler.compileBytes (untilZero pattern) with
  | error e => exact .inl ⟨e, rfl, rfl⟩
  | ok p =>
      have hvalue : (s.registry.insertCompiled (.ok p)).1.value = (s.registry.insert p).1.value :=
        rfl
      have hstore : (s.registry.insertCompiled (.ok p)).2 = (s.registry.insert p).2 := rfl
      rw [hvalue, hstore]
      rcases wf.insert_spec p with ⟨hroom, h, hv, -⟩ | ⟨hfull, hv, hs⟩
      · rw [hv]
        exact .inr (.inr ⟨p, h, rfl, hroom, rfl⟩)
      · rw [hv, hs]
        exact .inr (.inl ⟨p, rfl, hfull, rfl⟩)

/-- A call that fails keeps its code, writes nothing and changes nothing else. -/
theorem perform_of_fails {s : Session} (wf : s.registry.WellFormed) {c : Call} {code : ErrorCode}
    (h : Fails s c code) : s.perform c = (.answered .failed none, s.recordError code) := by
  cases h with
  | @noPattern pattern hasOutput hmissing =>
      rcases hmissing with rfl | rfl
      · rfl
      · cases pattern <;> rfl
  | @refused pattern e hrefused =>
      rcases perform_compile_spec wf pattern with ⟨e', he, hs⟩ | ⟨p, hp, -⟩ | ⟨p, -, hp, -⟩
      · obtain rfl : e = e' := by simpa using hrefused.symm.trans he
        exact hs
      · cases hrefused.symm.trans hp
      · cases hrefused.symm.trans hp
  | @full pattern p hcompiled hfull =>
      rcases perform_compile_spec wf pattern with ⟨e, he, -⟩ | ⟨p, hp, -, hs⟩ | ⟨p, -, hp, hroom, -⟩
      · cases hcompiled.symm.trans he
      · exact hs
      · omega
  | dispose hbad =>
      exact perform_dispose_of_listAt?_eq_none s (listAt?_of_isMalformed hbad)
  | findBest hq => exact perform_findBest_of_fails s hq
  | configure hnone => rw [perform_configure, hnone]

/-- A call that answers and does not fail succeeds, and leaves the code kept before. -/
theorem perform_of_not_fails {s : Session} (wf : s.registry.WellFormed) {c : Call}
    (hc : c.Answers) (h : ∀ code, ¬Fails s c code) :
    (∃ w, (s.perform c).1 = .answered .succeeded w) ∧
      (s.perform c).2 = { s with registry := (s.perform c).2.registry } := by
  cases c with
  | compile pattern hasOutput =>
      cases pattern with
      | none => exact absurd (.noPattern (.inl rfl)) (h _)
      | some pattern =>
          cases hasOutput with
          | false => exact absurd (.noPattern (.inr rfl)) (h _)
          | true =>
              rcases perform_compile_spec wf pattern with ⟨e, he, -⟩ | ⟨p, hp, hfull, -⟩ |
                ⟨p, k, -, -, hs⟩
              · exact absurd (.refused he) (h _)
              · exact absurd (.full hp hfull) (h _)
              · rw [hs]
                exact ⟨⟨_, rfl⟩, rfl⟩
  | dispose patterns count =>
      have hgood : ¬IsMalformed patterns count := fun hbad => h _ (.dispose hbad)
      rw [perform_dispose s (listAt?_of_not_isMalformed hgood)]
      exact ⟨⟨_, rfl⟩, rfl⟩
  | findBest q =>
      obtain ⟨best, hs⟩ := perform_findBest_of_not_fails s fun code hq => h code (.findBest hq)
      rw [hs]
      exact ⟨⟨_, rfl⟩, rfl⟩
  | configure json =>
      cases hsettings : settingsAt? json with
      | none => exact absurd (.configure hsettings) (h _)
      | some settings =>
          rw [perform_configure, hsettings]
          exact ⟨⟨_, rfl⟩, rfl⟩
  | readError => exact hc.elim
  | recordError code => exact hc.elim

end Session

end Leftmost
